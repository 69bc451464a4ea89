import NearLink.Cm.ConcurrentStep

/-!
# Connection requests on a table of supported addresses

What a direct and a background request do to the table, up to the point where
a failure is cleaned up.  A restart of a timer that fails leaves an entry
without a timer, so the table is well formed again only after its node has
been destroyed.
-/

namespace NearLink.Cm

open Keyed Transition Option ConnectingDev

namespace ConnTable

variable {table before : ConnTable} {dev : ConnectingDev} {addr : SleAddr}
  {moduleId : UInt8} {lower : Lower} {id : Nat} {conn : DirectConn}
  {success : Bool} {addrs : List SleAddr} {bgAddr : BgConnAddr}
  {bgAddrs : List BgConnAddr}

def directEntry (table : ConnTable) (addr : SleAddr) (moduleId : UInt8) :
    Option DirectConn :=
  (table.connectingDevFind addr).bind fun dev => dev.directFind moduleId

def bgEntry (table : ConnTable) (addr : SleAddr) (moduleId : UInt8) :
    Option BgConn :=
  (table.connectingDevFind addr).bind fun dev => dev.doingConnBgFind moduleId

theorem directEntry_congr {other : ConnTable}
    (same : other.connectingDevFind addr = table.connectingDevFind addr)
    (moduleId : UInt8) :
    other.directEntry addr moduleId = table.directEntry addr moduleId := by
  unfold directEntry
  rw [same]

section

variable (formed : table.Formed)
  (located : table.connectingDevFind addr = some dev) (moduleId : UInt8)
include formed located

theorem Formed.expire :
    ((table.eraseDoingDirectConnMap dev moduleId)
      |>.tryDestroyConnectingDevEmptyNode
        (dev.eraseDirect moduleId) addr).Formed :=
  (formed.eraseDirect located moduleId).tryDestroy _ _

theorem Formed.find_expire (wanted : SleAddr) :
    ((table.eraseDoingDirectConnMap dev moduleId)
      |>.tryDestroyConnectingDevEmptyNode
        (dev.eraseDirect moduleId) addr).connectingDevFind wanted =
      if wanted = addr then
        if (dev.eraseDirect moduleId).Wanted then
          some (dev.eraseDirect moduleId)
        else none
      else table.connectingDevFind wanted := by
  have proper := formed.devs dev (find_mem located).1
  have size := eraseDirect_size proper moduleId
  have emptyIff : ((dev.eraseDirect moduleId).doingBgConnSet.isEmpty ∧
      (dev.eraseDirect moduleId).sizeDoingDirect = 0) ↔
      ¬ (dev.eraseDirect moduleId).Wanted := by
    rw [size, List.length_eq_zero_iff, List.isEmpty_iff]
    unfold ConnectingDev.Wanted
    tauto
  rw [(formed.eraseDirect located moduleId).find_tryDestroy,
    find_eraseDirect formed located]
  by_cases same : wanted = addr
  · simp only [same, true_and, emptyIff, if_true]
    by_cases isWanted : (dev.eraseDirect moduleId).Wanted <;> simp [isWanted]
  · simp [same]

end

theorem timerAdd_some {handle : Option Nat} {added : ConnTable}
    (result : table.timerAdd handle moduleId addr = some (id, added)) :
    handle = some id ∧ id ∉ table.timers.map ConnTimer.id ∧
      added = { table with
        timers := table.timers ++ [⟨id, moduleId, addr⟩] } := by
  unfold timerAdd at result
  cases handle with
  | none => cases result
  | some offered =>
    simp only at result
    split at result
    · cases result
    next free =>
      cases result
      exact ⟨rfl, fun member => free (.inr member), rfl⟩

theorem ids_append {timers : List ConnTimer}
    (unique : (timers.map ConnTimer.id).Nodup)
    (free : id ∉ timers.map ConnTimer.id) (moduleId : UInt8) (addr : SleAddr) :
    ((timers ++ [(⟨id, moduleId, addr⟩ : ConnTimer)]).map ConnTimer.id).Nodup :=
  nodup_append_singleton unique free

theorem erase_timerDel (located : table.connectingDevFind addr = some dev)
    (member : conn ∈ dev.direct) : Alike (table.eraseConnectingDev addr)
      ((table.timerDel conn.timerId).eraseConnectingDev addr) := by
  have sameFind : (table.timerDel conn.timerId).connectingDevFind addr =
      some dev := located
  unfold eraseConnectingDev
  rw [located, sameFind]
  refine ⟨rfl, rfl, ?_, rfl⟩
  simp only [timerDel, List.filter_filter]
  apply List.filter_congr
  intro timer _
  by_cases same : timer.id = conn.timerId
  · have inside : conn.timerId ∈ dev.direct.map DirectConn.timerId :=
      List.mem_map_of_mem member
    simp [same, inside]
  · simp [same]

structure Doing (table : ConnTable) (moduleId : UInt8) (addr : SleAddr)
    (result : ConnTable × Bool) : Prop where
  elsewhere : ∀ wanted, wanted ≠ addr →
    result.1.connectingDevFind wanted = table.connectingDevFind wanted
  silent : Silent table result.1
  entered : result.2 = true → result.1.Formed ∧
    (∃ conn, result.1.directEntry addr moduleId = some conn) ∧
    ∀ other, other ≠ moduleId →
      result.1.directEntry addr other = table.directEntry addr other
  cleared : result.2 = false → (result.1.eraseConnectingDev addr).Formed ∧
      (result.1.eraseConnectingDev addr).connectingDevFind addr = none

theorem Doing.failed {result : ConnTable} (formed : result.Formed)
    (elsewhere : ∀ wanted, wanted ≠ addr →
      result.connectingDevFind wanted = table.connectingDevFind wanted)
    (silent : Silent table result) :
    Doing table moduleId addr (result, false) :=
  ⟨elsewhere, silent, by simp,
    fun _ => ⟨formed.erase addr, formed.find_erase addr⟩⟩

theorem Doing.after {result : ConnTable × Bool}
    (elsewhere : ∀ wanted, wanted ≠ addr →
      table.connectingDevFind wanted = before.connectingDevFind wanted)
    (silent : Silent before table)
    (entries : ∀ other, table.directEntry addr other =
      before.directEntry addr other)
    (doing : Doing table moduleId addr result) :
    Doing before moduleId addr result := by
  refine ⟨?_, silent.trans doing.silent, ?_, doing.cleared⟩
  · intro wanted differs
    rw [doing.elsewhere wanted differs, elsewhere wanted differs]
  · intro success
    obtain ⟨formed, entered, others⟩ := doing.entered success
    refine ⟨formed, entered, ?_⟩
    intro other differs
    rw [others other differs, entries other]


def retimed (dev : ConnectingDev) (conn : DirectConn) (id : Nat) :
    ConnectingDev :=
  { dev with
    doingDirectConnMap := some (modify DirectConn.moduleId conn.moduleId
      (fun old => { old with timerId := id }) dev.direct) }

theorem retimed_direct (dev : ConnectingDev) (conn : DirectConn) (id : Nat) :
    (retimed dev conn id).direct = modify DirectConn.moduleId conn.moduleId
        (fun old => { old with timerId := id }) dev.direct := rfl

theorem retimed_formed (proper : dev.Formed) (conn : DirectConn) (id : Nat) :
    (retimed dev conn id).Formed := by
  have modules : (retimed dev conn id).direct.map DirectConn.moduleId =
      dev.direct.map DirectConn.moduleId := by
    exact map_modify fun _ => rfl
  have addrs : (retimed dev conn id).direct.map DirectConn.addr =
      dev.direct.map DirectConn.addr := by
    exact map_modify fun _ => rfl
  constructor
  · have length := congrArg List.length modules
    rw [List.length_map, List.length_map] at length
    exact proper.size.trans length.symm
  · rw [modules]
    exact proper.modules
  · intro entry member
    have address : entry.addr ∈ dev.direct.map DirectConn.addr :=
      addrs ▸ List.mem_map_of_mem member
    obtain ⟨old, inside, same⟩ := List.mem_map.mp address
    rw [← same]
    exact proper.addrs old inside

theorem Doing.written (formed : table.Formed)
    (located : table.connectingDevFind addr = some dev)
    {written : ConnectingDev} (serial : written.serial = dev.serial)
    (kept : written.addr = dev.addr) (proper : written.Formed)
    {timers : List ConnTimer} (ids : (timers.map ConnTimer.id).Nodup)
    (running : timers.Perm (written.owned ++
      (remove ConnectingDev.addr addr table.devices).flatMap
        ConnectingDev.owned))
    (entered : ∃ conn, written.directFind moduleId = some conn)
    (others : ∀ other, other ≠ moduleId →
      written.directFind other = dev.directFind other) :
    Doing table moduleId addr
      ({ table.put written with timers := timers }, true) := by
  have newFind (wanted : SleAddr) :
      { table.put written with timers := timers }.connectingDevFind wanted =
        if wanted = addr then some written
        else table.connectingDevFind wanted :=
    formed.find_put located serial kept wanted
  have newEntry (other : UInt8) :
      { table.put written with timers := timers }.directEntry addr other =
        written.directFind other := by
    unfold directEntry
    rw [newFind, if_pos rfl, bind_some]
  have oldEntry (other : UInt8) :
      table.directEntry addr other = dev.directFind other := by
    unfold directEntry
    rw [located, bind_some]
  refine ⟨?_, Silent.of_eq rfl, fun _ => ⟨?_, ?_, ?_⟩, by simp⟩
  · intro wanted differs
    rw [newFind, if_neg differs]
  · exact formed.write located serial kept proper ids running
  · simpa only [newEntry] using entered
  · intro other differs
    rw [newEntry, oldEntry, others other differs]

theorem Doing.later {result later : ConnTable}
    (doing : Doing table moduleId addr (result, success))
    (alike : Alike result later) (silent : Silent result later) :
    Doing table moduleId addr (later, success) := by
  have entries (other : UInt8) :
      later.directEntry addr other = result.directEntry addr other :=
    directEntry_congr (alike.find addr) other
  refine ⟨?_, doing.silent.trans silent, ?_, ?_⟩
  · intro wanted differs
    rw [alike.find]
    exact doing.elsewhere wanted differs
  · intro done
    obtain ⟨formed, entered, others⟩ := doing.entered done
    refine ⟨alike.formed formed, ?_, ?_⟩
    · simpa only [entries] using entered
    · intro other differs
      rw [entries]
      exact others other differs
  · intro failed
    obtain ⟨formed, absent⟩ := doing.cleared failed
    have erased := alike.erase addr
    refine ⟨erased.formed formed, ?_⟩
    rw [erased.find]
    exact absent

theorem Doing.quiet {result later : ConnTable}
    (doing : Doing table moduleId addr (result, success))
    (quiet : Quiet result later) : Doing table moduleId addr (later, success) :=
  doing.later quiet.alike (.of_eq quiet.reports)

theorem owned_retimed (found : dev.directFind conn.moduleId = some conn)
    (id : Nat) :
    (retimed dev conn id).owned.Perm (⟨id, conn.moduleId, conn.addr⟩ ::
      (remove DirectConn.moduleId conn.moduleId dev.direct).map
        fun conn => ⟨conn.timerId, conn.moduleId, conn.addr⟩) := by
  exact (modify_perm_of_lookup _ found).map _

theorem restart_doing (formed : table.Formed)
    (located : table.connectingDevFind addr = some dev)
    (found : dev.directFind moduleId = some conn) :
    Doing table moduleId addr (table.restartTimer lower dev conn) := by
  have member := lookup_mem found
  have named : conn.moduleId = moduleId := lookup_key found
  have proper := formed.devs dev (find_mem located).1
  unfold restartTimer
  dsimp only
  cases added : (table.timerDel conn.timerId).timerAdd lower.timer
      conn.moduleId conn.addr with
  | none =>
    refine ⟨fun _ _ => rfl, Silent.of_eq rfl, by simp, fun _ => ?_⟩
    have alike := erase_timerDel located member
    refine ⟨alike.formed (formed.erase addr), ?_⟩
    rw [alike.find]
    exact formed.find_erase addr
  | some result =>
    obtain ⟨id, started⟩ := result
    obtain ⟨-, free, rfl⟩ := timerAdd_some added
    subst named
    have keeps (old : DirectConn) :
        ({ old with timerId := id } : DirectConn).moduleId =
          old.moduleId := rfl
    have serial : (retimed dev conn id).serial = dev.serial := rfl
    have kept : (retimed dev conn id).addr = dev.addr := rfl
    refine Doing.written formed located serial kept
      (retimed_formed proper conn id) ?_ ?_ ?_ ?_
    · exact ids_append ((List.filter_sublist.map _).nodup formed.ids) free
        conn.moduleId conn.addr
    · -- the old timer is deleted, and the new one takes its place
      have parts : table.timers.Perm
          ([⟨conn.timerId, conn.moduleId, conn.addr⟩] ++
            ((remove DirectConn.moduleId conn.moduleId dev.direct).map
              (fun conn => ⟨conn.timerId, conn.moduleId, conn.addr⟩) ++
              (remove ConnectingDev.addr addr table.devices).flatMap
                ConnectingDev.owned)) :=
        (formed.split located).trans
          (((perm_of_lookup found).map _).append_right _)
      have left : ((table.timerDel conn.timerId).timers).Perm _ :=
        filter_perm_rest formed.ids parts (by simp)
      refine ((left.append_right _).trans List.perm_append_comm).trans ?_
      exact ((owned_retimed found id).append_right _).symm
    · refine ⟨{ conn with timerId := id }, ?_⟩
      unfold ConnectingDev.directFind at found ⊢
      rw [retimed_direct, lookup_modify_self keeps, found]
      rfl
    · intro other differs
      exact lookup_modify_ne keeps differs

def entered (dev : ConnectingDev) (conn : DirectConn) : ConnectingDev :=
  { dev with
    doingDirectConnMap := some (conn :: dev.direct)
    sizeDoingDirect := dev.sizeDoingDirect + 1 }

theorem entered_direct (dev : ConnectingDev) (conn : DirectConn) :
    (entered dev conn).direct = conn :: dev.direct := rfl

theorem entered_formed (proper : dev.Formed)
    (absent : dev.directFind conn.moduleId = none)
    (placed : conn.addr = dev.addr) : (entered dev conn).Formed := by
  constructor
  · rw [entered_direct, List.length_cons, ← proper.size]
    rfl
  · exact List.nodup_cons.mpr ⟨lookup_eq_none.mp absent, proper.modules⟩
  · exact List.forall_mem_cons.mpr ⟨placed, proper.addrs⟩

theorem afterInsertFail_doing {inserted : ConnTable}
    (doing : Doing table moduleId addr (inserted, true)) {serial : Nat}
    {written : ConnectingDev}
    (located : inserted.connectingDevFind addr = some written)
    (pointer : written.serial = serial) :
    Doing table moduleId addr
      (inserted.doingConnDirectAfterInsertFailProc serial moduleId addr,
        false) := by
  obtain ⟨formed, -, -⟩ := doing.entered rfl
  have reached := formed.devAt_serial located
  rw [pointer] at reached
  unfold doingConnDirectAfterInsertFailProc
  rw [reached]
  apply Doing.failed (formed.expire located moduleId)
  · intro wanted differs
    rw [formed.find_expire located, if_neg differs]
    exact doing.elsewhere wanted differs
  · exact doing.silent.trans (.of_eq (by simp))

theorem timers_undone {timers : List ConnTimer}
    (free : id ∉ timers.map ConnTimer.id) (moduleId : UInt8) (addr : SleAddr) :
    (timers ++ [(⟨id, moduleId, addr⟩ : ConnTimer)]).filter
      (fun timer => timer.id != id) = timers := by
  have others : timers.filter (fun timer => timer.id != id) = timers := by
    rw [List.filter_eq_self]
    intro timer member
    simp only [bne_iff_ne, ne_eq]
    intro same
    exact free (same ▸ List.mem_map_of_mem member)
  rw [List.filter_append, others]
  simp

section

variable (formed : table.Formed)
  (located : table.connectingDevFind addr = some dev)
  (absent : dev.directFind moduleId = none) (frameType : UInt8)
include formed located absent

theorem entered_doing (free : id ∉ table.timers.map ConnTimer.id)
    : Doing table moduleId addr
      ({ table.put (entered dev ⟨moduleId, addr, id, frameType⟩) with
        timers := table.timers ++ [⟨id, moduleId, addr⟩] }, true) := by
  have proper := formed.devs dev (find_mem located).1
  have kept : (entered dev ⟨moduleId, addr, id, frameType⟩).addr =
    dev.addr := rfl
  have serial : (entered dev ⟨moduleId, addr, id, frameType⟩).serial =
    dev.serial := rfl
  have formedDev : (entered dev ⟨moduleId, addr, id, frameType⟩).Formed :=
    entered_formed proper absent (find_mem located).2.symm
  refine Doing.written formed located serial kept formedDev ?_ ?_ ?_ ?_
  · exact ids_append formed.ids free moduleId addr
  · refine List.perm_append_comm.trans ?_
    exact (formed.split located).cons _
  · refine ⟨⟨moduleId, addr, id, frameType⟩, ?_⟩
    simp [ConnectingDev.directFind, entered_direct, lookup]
  · intro other differs
    simp [ConnectingDev.directFind, entered_direct, lookup, Ne.symm differs]

theorem insert_doing :
    Doing table moduleId addr
      (table.doingConnDirectInsert lower dev moduleId addr frameType) := by
  have untouched : Doing table moduleId addr (table, false) :=
    Doing.failed formed (fun _ _ => rfl) (.of_eq rfl)
  unfold doingConnDirectInsert
  split
  · exact untouched
  cases result : table.timerAdd lower.timer moduleId addr with
  | none => exact untouched
  | some pair =>
    obtain ⟨id, added⟩ := pair
    obtain ⟨-, free, rfl⟩ := timerAdd_some result
    dsimp only
    split
    · exact untouched.quiet
        ⟨⟨rfl, rfl, timers_undone free moduleId addr, rfl⟩, rfl⟩
    · have inserted := entered_doing formed located absent frameType free
      have cancelled := inserted.quiet (.command _ .connectCancel)
      obtain ⟨ready, -, -⟩ := cancelled.entered rfl
      have startQuiet := ready.start_quiet lower (some addr)
      have started := cancelled.quiet startQuiet
      split
      · exact started
      · have reached : (table.put (entered dev
            ⟨moduleId, addr, id, frameType⟩)).connectingDevFind addr =
              some (entered dev ⟨moduleId, addr, id, frameType⟩) := by
          rw [formed.find_put located (by rfl) (by rfl), if_pos rfl]
        exact afterInsertFail_doing started
          ((startQuiet.alike.find addr).trans reached) rfl

end

theorem doing_find (proper : dev.Formed) (moduleId : UInt8) :
    (if dev.sizeDoingDirect ≠ 0 then dev.directFind moduleId else none) =
      dev.directFind moduleId := by
  split
  · rfl
  next zero =>
    have empty : dev.direct = [] := by
      rw [← List.length_eq_zero_iff, ← proper.size]
      exact Decidable.not_not.mp zero
    unfold ConnectingDev.directFind
    rw [empty]
    rfl

theorem directConnectDoing_doing (formed : table.Formed)
    (located : table.connectingDevFind addr = some dev)
    (moduleId : UInt8) (frameType : UInt8) :
    Doing table moduleId addr
      (table.directConnectDoing lower dev moduleId addr frameType) := by
  have proper := formed.devs dev (find_mem located).1
  unfold directConnectDoing
  rw [doing_find proper]
  cases found : dev.directFind moduleId with
  | some conn =>
    have restarted : Doing table moduleId addr
      (table.restartTimer lower dev conn) := restart_doing formed located found
    dsimp only
    split
    next success =>
      rw [← Prod.mk.eta (p := table.restartTimer lower dev conn),
        success] at restarted
      exact restarted.later (.refl _) (.notifyConnecting _ moduleId addr)
    · exact restarted
  | none =>
    dsimp only
    split
    · exact insert_doing formed located found frameType
    · have notified := report_alike table
        ⟨moduleId, invalidLcid, addr, .connecting, 0⟩
      refine Doing.after (fun wanted _ => notified.find wanted)
        (.notifyConnecting table moduleId addr)
        (directEntry_congr (notified.find addr)) ?_
      exact insert_doing (notified.formed formed) located found frameType

theorem directConnectDoingConnList_doing (formed : table.Formed)
    (lower : Lower) (supported : addr.Supported)
    (named : addr ≠ SleAddr.empty) (moduleId : UInt8) (frameType : UInt8) :
    Doing table moduleId addr
      (table.directConnectDoingConnList lower moduleId addr frameType) := by
  unfold directConnectDoingConnList
  cases result :
      table.createAppModuleConnectingDev (lower.nodeMem 0) addr with
  | none => exact Doing.failed formed (fun _ _ => rfl) (.of_eq rfl)
  | some pair =>
    obtain ⟨created, found⟩ := pair
    obtain ⟨formedNew, located, elsewhere, reports, entries, -⟩ :=
      formed.create supported named result
    have proper := formedNew.devs found (find_mem located).1
    have written {dev : ConnectingDev} (serial : dev.serial = found.serial)
        (kept : dev.addr = found.addr) (formedDev : dev.Formed)
        (direct : dev.direct = found.direct) :
        (created.put dev).Formed ∧
          (created.put dev).connectingDevFind addr = some dev ∧
          (∀ wanted, wanted ≠ addr →
            (created.put dev).connectingDevFind wanted =
              table.connectingDevFind wanted) ∧
          ∀ other, (created.put dev).directEntry addr other =
            table.directEntry addr other := by
      have newFind (wanted : SleAddr) :=
        formedNew.find_put located serial kept wanted
      refine ⟨formedNew.put located serial kept formedDev direct, ?_, ?_, ?_⟩
      · rw [newFind, if_pos rfl]
      · intro wanted differs
        rw [newFind, if_neg differs, elsewhere wanted differs]
      · intro other
        unfold directEntry
        rw [newFind, if_pos rfl, bind_some, ← entries other]
        unfold ConnectingDev.directFind
        rw [direct]
    have formedDev : { found with moduleId := moduleId }.Formed :=
      proper.congr rfl rfl rfl
    dsimp only
    split
    · obtain ⟨formedAfter, -, frame, -⟩ :=
        written (by rfl) (by rfl) formedDev (by rfl)
      exact Doing.failed formedAfter frame (.of_eq reports)
    · obtain ⟨formedAfter, reached, frame, sameEntries⟩ :=
        written (createMap_serial { found with moduleId := moduleId })
          (createMap_addr
            { found with moduleId := moduleId }) formedDev.createMap
          (createMap_direct { found with moduleId := moduleId })
      exact Doing.after frame (.of_eq reports) sameEntries
        (directConnectDoing_doing formedAfter reached moduleId frameType)

structure Kept (table after : ConnTable) : Prop where
  formed : after.Formed
  silent : Silent table after
  entries : ∀ addr moduleId,
    after.directEntry addr moduleId = table.directEntry addr moduleId

theorem Kept.refl (formed : table.Formed) : Kept table table :=
  ⟨formed, Silent.of_eq rfl, fun _ _ => rfl⟩

theorem Kept.trans {first second third : ConnTable}
    (left : Kept first second) (right : Kept second third) :
    Kept first third := by
  refine ⟨right.formed, left.silent.trans right.silent, ?_⟩
  intro addr moduleId
  rw [right.entries, left.entries]

theorem Alike.kept {after : ConnTable} (alike : Alike table after)
    (silent : Silent table after) (formed : table.Formed) :
    Kept table after :=
  ⟨alike.formed formed, silent, fun addr =>
    directEntry_congr (alike.find addr)⟩

theorem Quiet.kept {after : ConnTable} (quiet : Quiet table after)
    (formed : table.Formed) : Kept table after :=
  quiet.alike.kept (.of_eq quiet.reports) formed

theorem Formed.wanted_iff (formed : table.Formed) :
    table.Wanted ↔ ∀ addr dev,
      table.connectingDevFind addr = some dev → dev.Wanted := by
  constructor
  · intro wanted addr dev located
    exact wanted dev (find_mem located).1
  · intro wanted dev member
    exact wanted dev.addr dev (formed.find_of_mem member)

section

variable {written : ConnectingDev} (formed : table.Formed)
  (located : table.connectingDevFind addr = some dev)
  (serial : written.serial = dev.serial)
include formed located serial

theorem Formed.put_kept (kept : written.addr = dev.addr)
    (proper : written.Formed) (direct : written.direct = dev.direct) :
    Kept table (table.put written) := by
  refine ⟨formed.put located serial kept proper direct, Silent.of_eq rfl, ?_⟩
  intro wanted moduleId
  unfold directEntry
  rw [formed.find_put located serial kept]
  by_cases same : wanted = addr
  · rw [if_pos same, same, located, bind_some, bind_some]
    unfold ConnectingDev.directFind
    rw [direct]
  · rw [if_neg same]

theorem Formed.put_wanted (isWanted : written.Wanted)
    (others : ∀ wanted old, wanted ≠ addr →
      table.connectingDevFind wanted = some old → old.Wanted) :
    (table.put written).Wanted := by
  intro node member
  rw [formed.put_devices located serial] at member
  rcases (mem_modify formed.addrs).mp member with ⟨old, differs⟩ | ⟨_, same⟩
  · exact others node.addr node differs (formed.find_of_mem old)
  · exact same.2.2 ▸ isWanted

end

structure Listing (table : ConnTable) (addrs : List SleAddr)
    (after : ConnTable) (success : Bool) : Prop where
  kept : Kept table after
  elsewhere : ∀ wanted, wanted ∉ addrs →
    after.connectingDevFind wanted = table.connectingDevFind wanted
  wanted : success = true → table.Wanted → after.Wanted

theorem Listing.refl (formed : table.Formed) (addrs : List SleAddr)
    (success : Bool) : Listing table addrs table success :=
  ⟨Kept.refl formed, fun _ _ => rfl, fun _ wanted => wanted⟩

theorem Listing.alike {after later : ConnTable}
    (listing : Listing table addrs after success) (alike : Alike after later)
    (silent : Silent after later) : Listing table addrs later success := by
  refine ⟨listing.kept.trans (alike.kept silent listing.kept.formed), ?_,
    fun done wanted => alike.wanted (listing.wanted done wanted)⟩
  intro wanted outside
  rw [alike.find]
  exact listing.elsewhere wanted outside

theorem created_listing (formed : table.Formed) (supported : addr.Supported)
    (named : addr ≠ SleAddr.empty) {mem : Bool} {created : ConnTable}
    (result : table.createAppModuleConnectingDev mem addr = some (created, dev))
    (owner : UInt8) {set : List BgConn} (isWanted : success = true → set ≠ []) :
    Listing table [addr] (created.put
      { dev with moduleId := owner, doingBgConnSet := set }) success := by
  obtain ⟨formedNew, located, elsewhere, reports, entries, -⟩ :=
    formed.create supported named result
  have proper := formedNew.devs dev (find_mem located).1
  have creating : Kept table created := by
    refine ⟨formedNew, Silent.of_eq reports, ?_⟩
    intro wanted other
    by_cases same : wanted = addr
    · unfold directEntry
      rw [same, located, bind_some, entries]
    · exact directEntry_congr (elsewhere wanted same) other
  refine ⟨creating.trans (formedNew.put_kept located (by rfl) (by rfl)
    (proper.congr rfl rfl rfl) rfl), ?_, ?_⟩
  · intro wanted outside
    have differs : wanted ≠ addr := by simpa using outside
    rw [formedNew.find_put located (by rfl) (by rfl), if_neg differs]
    exact elsewhere wanted differs
  · intro done wanted
    refine formedNew.put_wanted located (by rfl) (.inr (isWanted done)) ?_
    intro other old differs found
    rw [elsewhere other differs] at found
    exact wanted old (find_mem found).1

theorem bgConnectInsert_listing (formed : table.Formed)
    (supported : bgAddr.addr.Supported) (named : bgAddr.addr ≠ SleAddr.empty)
    (moduleId : UInt8) (index : Nat) : Listing table [bgAddr.addr]
      (table.bgConnectInsert lower moduleId index bgAddr).1
      (table.bgConnectInsert lower moduleId index bgAddr).2.2 := by
  unfold bgConnectInsert
  split
  · exact Listing.refl formed _ _
  cases result : table.createAppModuleConnectingDev (lower.nodeMem index)
      bgAddr.addr with
  | none => exact Listing.refl formed _ _
  | some pair =>
    obtain ⟨created, dev⟩ := pair
    dsimp only
    split
    all_goals
      exact created_listing formed supported named result moduleId (by simp)

theorem Listing.after {after : ConnTable} (alike : Alike before table)
    (silent : Silent before table) (formed : before.Formed)
    (listing : Listing table addrs after success) :
    Listing before addrs after success := by
  refine ⟨(alike.kept silent formed).trans listing.kept, ?_,
    fun done wanted => listing.wanted done (alike.wanted wanted)⟩
  intro wanted outside
  rw [listing.elsewhere wanted outside, alike.find]

theorem bgConnectAddOne_listing (formed : table.Formed) (lower : Lower)
    (supported : bgAddr.addr.Supported) (moduleId : UInt8) (index : Nat) :
    Listing table [bgAddr.addr]
      (table.bgConnectAddOne lower moduleId index bgAddr).1
      (table.bgConnectAddOne lower moduleId index bgAddr).2.2 := by
  unfold bgConnectAddOne
  split
  · exact Listing.refl formed _ _
  rename_i named
  cases located : table.connectingDevFind bgAddr.addr with
  | none => exact bgConnectInsert_listing formed supported named moduleId index
  | some dev =>
    dsimp only
    cases found : dev.doingConnBgFind moduleId with
    | some conn =>
      have present : table.createAppModuleConnectingDev false
          bgAddr.addr = some (table, dev) := by
        simp [createAppModuleConnectingDev, located]
      have filled : modify BgConn.moduleId moduleId
          (fun old => { old with isBypass := bgAddr.isBypass })
          dev.doingBgConnSet ≠ [] := by
        intro empty
        have changed := (modify_perm_of_lookup
          (fun old : BgConn => { old with isBypass := bgAddr.isBypass })
          found).length_eq
        rw [empty] at changed
        simp at changed
      have written := created_listing formed supported named present
        dev.moduleId (fun (_ : true = true) => filled)
      exact written.alike (.refl _) (.notifyConnecting _ moduleId bgAddr.addr)
    | none =>
      have alike := report_alike table
        ⟨moduleId, invalidLcid, bgAddr.addr, .connecting, 0⟩
      refine Listing.after alike
        (.notifyConnecting table moduleId bgAddr.addr) formed ?_
      exact bgConnectInsert_listing (alike.formed formed) supported named
        moduleId index

theorem bgConnectAddList_listing (lower : Lower) (moduleId : UInt8)
    (formed : table.Formed)
    (supported : ∀ bgAddr ∈ bgAddrs, bgAddr.addr.Supported) (index : Nat) :
    Listing table (bgAddrs.map BgConnAddr.addr)
      (bgConnectAddDoingConnBgList lower moduleId index bgAddrs table).1
      (bgConnectAddDoingConnBgList lower moduleId index bgAddrs table).2.2 := by
  induction bgAddrs generalizing table index with
  | nil => exact Listing.refl formed _ _
  | cons bgAddr bgAddrs induction =>
    have one := bgConnectAddOne_listing formed lower
      (supported bgAddr (by simp)) moduleId index
    unfold bgConnectAddDoingConnBgList
    dsimp only
    split
    next success =>
      have rest := induction one.kept.formed (fun later member =>
        supported later (.tail _ member)) (index + 1)
      refine ⟨one.kept.trans rest.kept, ?_, ?_⟩
      · intro wanted outside
        rw [List.map_cons, List.mem_cons, not_or] at outside
        rw [rest.elsewhere wanted outside.2]
        exact one.elsewhere wanted (by simpa using outside.1)
      · intro done wanted
        exact rest.wanted done (one.wanted success wanted)
    · refine ⟨one.kept, ?_, one.wanted⟩
      intro wanted outside
      rw [List.map_cons, List.mem_cons, not_or] at outside
      exact one.elsewhere wanted (by simpa using outside.1)

variable (formed : table.Formed)
include formed

theorem bgConnectAddAll_listing (lower : Lower) (moduleId : UInt8)
    (supported : ∀ bgAddr ∈ bgAddrs, bgAddr.addr.Supported) :
    Listing table (bgAddrs.map BgConnAddr.addr)
      (table.bgConnectAddAll lower moduleId bgAddrs).1
      (table.bgConnectAddAll lower moduleId bgAddrs).2 := by
  have listing := bgConnectAddList_listing lower moduleId formed supported 0
  unfold bgConnectAddAll
  dsimp only
  split
  · exact ⟨listing.kept, listing.elsewhere, by simp⟩
  next success =>
    have done : (bgConnectAddDoingConnBgList lower moduleId 0 bgAddrs
      table).2.2 = true := by simpa using success
    rw [done] at listing
    split
    · exact listing
    · have quiet := listing.kept.formed.restart_quiet
        lower (! table.devices.isEmpty)
      have later := listing.alike quiet.alike (.of_eq quiet.reports)
      exact ⟨later.kept, later.elsewhere, fun _ => later.wanted rfl⟩

theorem Formed.erase_kept (located : table.connectingDevFind addr = some dev)
    (idle : dev.direct = []) : Kept table (table.eraseConnectingDev addr) := by
  refine ⟨formed.erase addr, Silent.of_eq (erase_reports table addr), ?_⟩
  intro wanted moduleId
  by_cases same : wanted = addr
  · unfold directEntry ConnectingDev.directFind
    rw [same, formed.find_erase, located, bind_some, idle]
    rfl
  · exact directEntry_congr (find_erase_ne same) moduleId

theorem Formed.erase_wanted (others : ∀ wanted old, wanted ≠ addr →
      table.connectingDevFind wanted = some old → old.Wanted) :
    (table.eraseConnectingDev addr).Wanted := by
  rw [(formed.erase addr).wanted_iff]
  intro wanted old located
  by_cases same : wanted = addr
  · rw [same, formed.find_erase] at located
    cases located
  · rw [find_erase_ne same] at located
    exact others wanted old same located

theorem doingConnBgRemove_kept
    (located : table.connectingDevFind addr = some dev) (moduleId : UInt8) :
    Kept table (table.doingConnBgRemove moduleId dev) ∧
      (table.Wanted → (table.doingConnBgRemove moduleId dev).Wanted) := by
  have proper := formed.devs dev (find_mem located).1
  obtain rfl := (find_mem located).2
  have written : Kept table (table.put { dev with
      doingBgConnSet :=
        remove BgConn.moduleId moduleId dev.doingBgConnSet }) :=
    formed.put_kept located (by rfl) (by rfl) (proper.congr rfl rfl rfl) rfl
  have newFind (wanted : SleAddr) : (table.put { dev with
      doingBgConnSet := remove BgConn.moduleId moduleId
        dev.doingBgConnSet }).connectingDevFind wanted = _ :=
    formed.find_put located (by rfl) (by rfl) wanted
  unfold doingConnBgRemove tryDestroyConnectingDevEmptyNode
  dsimp only
  split
  next empty =>
    have idle : dev.direct = [] := by
      rw [← List.length_eq_zero_iff, ← proper.size]
      exact empty.2
    have reached := (newFind dev.addr).trans (if_pos rfl)
    refine ⟨written.trans (written.formed.erase_kept reached idle), ?_⟩
    intro wanted
    apply written.formed.erase_wanted
    intro other old differs found
    rw [newFind, if_neg differs] at found
    exact wanted old (find_mem found).1
  next filled =>
    refine ⟨written, fun wanted => ?_⟩
    refine formed.put_wanted located (by rfl) ?_ ?_
    · by_contra unwanted
      unfold ConnectingDev.Wanted at unwanted
      rw [not_or, not_not, not_not] at unwanted
      apply filled
      refine ⟨List.isEmpty_iff.mpr unwanted.2, ?_⟩
      have idle : dev.direct = [] := unwanted.1
      rw [proper.size, idle]
      rfl
    · intro other old _ found
      exact wanted old (find_mem found).1

theorem doingConnBgClear_kept (moduleId : UInt8) :
    Kept table (table.doingConnBgClear moduleId) ∧
      (table.Wanted → (table.doingConnBgClear moduleId).Wanted) := by
  unfold doingConnBgClear
  generalize table.devices.map ConnectingDev.serial = serials
  induction serials generalizing table with
  | nil => exact ⟨Kept.refl formed, id⟩
  | cons serial serials induction =>
    rw [List.foldl_cons]
    cases reached : table.devAt serial with
    | none => exact induction formed
    | some dev =>
      have one := doingConnBgRemove_kept formed
        (formed.find_of_mem (lookup_mem reached)) moduleId
      have rest := induction one.1.formed
      exact ⟨one.1.trans rest.1, fun wanted => rest.2 (one.2 wanted)⟩

end ConnTable

end NearLink.Cm
