import NearLink.Sdf.Timer

/-!
# Timers do not end one another

What the log of an event centre says of each timer is compared with the events
that it listens for.  A step breaks the agreement only when a callback leaves
another timer under the number of its own, when `epoll_ctl` refuses a timer,
or when a timer is given the descriptor 0.
-/

namespace NearLink.Sdf

open Keyed Transition List

def TimerRecord.serial : TimerRecord → Nat
  | .created serial => serial
  | .added serial => serial
  | .deleted serial => serial
  | .expired serial => serial
  | .closed serial => serial

namespace EventCentre

def Listens (centre : EventCentre) (desc : TimerDesc) : Prop :=
  EvcEvent.timer desc ∈ centre.eventVector

/-- A timer is listened for until its owner deletes it or it expires, and its
descriptor is closed once, when it is no longer listened for. -/
structure Independent (centre : EventCentre) : Prop where
  listened : ∀ serial, .added serial ∈ centre.log →
    .deleted serial ∉ centre.log → .expired serial ∉ centre.log →
    ∃ desc, centre.Listens desc ∧ desc.serial = serial
  ended : ∀ desc, centre.Listens desc → .expired desc.serial ∉ centre.log
  held : ∀ desc, centre.Listens desc →
    desc.eventHandle ∈ centre.descriptors ∧ .closed desc.serial ∉ centre.log
  closedOnce : ∀ serial, .created serial ∈ centre.log →
    (∀ desc, centre.Listens desc → desc.serial ≠ serial) →
    centre.log.count (.closed serial) = 1

/-- The centre gets as far as `epoll_ctl` with an event of this number. -/
def Registers (centre : EventCentre) (eventHandle : Nat) (fate : ListenFate) : Prop :=
  fate.descFound = true ∧ centre.eventVector.length < evcMaxEventNum ∧
    centre.findEvcEvent eventHandle = none ∧ fate.memory = true

/-- No timer is given the descriptor 0 or refused by `epoll_ctl`, and no
callback of a one-shot timer returns while another timer has its number. -/
def Clear (centre : EventCentre) : EvcInput → Prop
  | .timerAdd _ fate => fate.memory = true → fate.create = true →
      lowestFree centre.descriptors ≠ 0 ∧
      (fate.settime = true →
        centre.Registers (lowestFree centre.descriptors) fate.listen →
        fate.listen.epollCtl = true)
  | .callbackReturns => ∀ desc, centre.firing = some desc →
      desc.period = false → ∀ other, centre.Listens other →
      other.eventHandle = desc.eventHandle → other = desc
  | _ => True

section Fields

variable (centre : EventCentre) (entry : TimerRecord) (fd : Nat)

@[simp] theorem note_kept :
    (centre.note entry).eventVector = centre.eventVector ∧
      (centre.note entry).descriptors = centre.descriptors ∧
      (centre.note entry).firing = centre.firing ∧
      (centre.note entry).serials = centre.serials ∧
      (centre.note entry).log = centre.log ++ [entry] :=
  ⟨rfl, rfl, rfl, rfl, rfl⟩

@[simp] theorem close_kept :
    (centre.close fd).eventVector = centre.eventVector ∧
      (centre.close fd).firing = centre.firing ∧
      (centre.close fd).serials = centre.serials ∧
      (centre.close fd).log = centre.log :=
  ⟨rfl, rfl, rfl, rfl⟩

@[simp] theorem mem_close_descriptors {number : Nat} :
    number ∈ (centre.close fd).descriptors ↔
      number ∈ centre.descriptors ∧ number ≠ fd := by
  simp [close]

end Fields

variable {centre : EventCentre} {desc : TimerDesc}

theorem evcListenEvent_cases (centre : EventCentre) (event : EvcEvent)
    (fate : ListenFate) :
    (∃ error, ¬ centre.Registers event.eventHandle fate ∧
        centre.evcListenEvent event fate = (centre, some error)) ∨
      (centre.Registers event.eventHandle fate ∧ fate.epollCtl = false ∧
        centre.evcListenEvent event fate =
          (centre.cleanDesc event, some .epollCtlFailed)) ∨
      (centre.Registers event.eventHandle fate ∧ fate.epollCtl = true ∧
        centre.evcListenEvent event fate =
          ({ centre with eventVector := centre.eventVector ++ [event] },
            none)) := by
  by_cases registers : centre.Registers event.eventHandle fate
  · right
    obtain ⟨descFound, room, fresh, memory⟩ := registers
    have roomy : ¬ evcMaxEventNum ≤ centre.eventVector.length := by omega
    cases epollCtl : fate.epollCtl with
    | false =>
      left
      refine ⟨⟨descFound, room, fresh, memory⟩, rfl, ?_⟩
      simp [evcListenEvent, descFound, roomy, fresh, memory, epollCtl]
    | true =>
      right
      refine ⟨⟨descFound, room, fresh, memory⟩, rfl, ?_⟩
      simp [evcListenEvent, descFound, roomy, fresh, memory, epollCtl]
  · left
    unfold evcListenEvent
    split
    · exact ⟨_, registers, rfl⟩
    split
    · exact ⟨_, registers, rfl⟩
    split
    · exact ⟨_, registers, rfl⟩
    split
    · exact ⟨_, registers, rfl⟩
    · exfalso
      apply registers
      constructor <;> simp_all

theorem evcCancelEvent_cases (centre : EventCentre) (eventHandle : Int) :
    (centre.evcCancelEvent eventHandle = centre ∧ (0 ≤ eventHandle →
          centre.findEvcEvent eventHandle.toNat = none)) ∨
      ∃ event, 0 ≤ eventHandle ∧
        centre.findEvcEvent eventHandle.toNat = some event ∧
        centre.evcCancelEvent eventHandle =
          { centre with
            eventVector := remove EvcEvent.eventHandle eventHandle.toNat
              centre.eventVector }.cleanDesc event := by
  unfold evcCancelEvent
  split
  case isTrue negative =>
    left
    refine ⟨rfl, ?_⟩
    intro positive
    omega
  case isFalse positive =>
    cases found : centre.findEvcEvent eventHandle.toNat with
    | none => exact .inl ⟨rfl, fun _ => rfl⟩
    | some event => exact .inr ⟨event, by omega, rfl, rfl⟩

structure Account (centre : EventCentre) : Prop where
  independent : centre.Independent
  handles : (centre.eventVector.map EvcEvent.eventHandle).Nodup
  distinct : ∀ first second, centre.Listens first → centre.Listens second →
    first.serial = second.serial → first = second
  below : ∀ entry ∈ centre.log, entry.serial < centre.serials
  recorded : ∀ desc, centre.Listens desc →
    .created desc.serial ∈ centre.log ∧ .added desc.serial ∈ centre.log ∧
      .deleted desc.serial ∉ centre.log
  fires : ∀ desc, centre.firing = some desc →
    .created desc.serial ∈ centre.log ∧
      ∀ other, centre.Listens other → other.serial = desc.serial → other = desc

theorem account_created (descriptors : List Nat) :
    (created descriptors).Account := by
  refine ⟨⟨?_, ?_, ?_, ?_⟩, ?_, ?_, ?_, ?_, ?_⟩
  all_goals simp [created, Listens]

namespace Account

variable (account : centre.Account) {desc : TimerDesc} {next : EventCentre}
include account

theorem unused {entry : TimerRecord} (later : entry.serial = centre.serials) :
    entry ∉ centre.log := by
  intro member
  have earlier := account.below entry member
  omega

theorem created_lt {serial : Nat} (known : .created serial ∈ centre.log) :
    serial < centre.serials :=
  account.below _ known

theorem listens_lt (listens : centre.Listens desc) :
    desc.serial < centre.serials :=
  account.created_lt (account.recorded desc listens).1

theorem same_handle {first second : TimerDesc} (left : centre.Listens first)
    (right : centre.Listens second)
    (same : first.eventHandle = second.eventHandle) : first = second := by
  have found := lookup_of_mem account.handles left
  have again := lookup_of_mem account.handles right
  have handle : EvcEvent.eventHandle (.timer first) =
      EvcEvent.eventHandle (.timer second) := same
  rw [handle, again] at found
  cases found
  rfl

theorem frame (log : next.log = centre.log)
    (serials : next.serials = centre.serials)
    (listens : ∀ desc, next.Listens desc ↔ centre.Listens desc)
    (handles : (next.eventVector.map EvcEvent.eventHandle).Nodup)
    (held : ∀ desc, centre.Listens desc →
      desc.eventHandle ∈ centre.descriptors →
      desc.eventHandle ∈ next.descriptors)
    (fires : ∀ desc, next.firing = some desc →
      centre.firing = some desc ∨ centre.Listens desc) : next.Account := by
  obtain ⟨⟨listened, ended, held', closedOnce⟩, _, distinct, below, recorded,
    firing⟩ := account
  refine ⟨⟨?_, ?_, ?_, ?_⟩, handles, ?_, ?_, ?_, ?_⟩
  · simpa only [log, listens] using listened
  · simpa only [log, listens] using ended
  · intro desc listening
    rw [listens] at listening
    rw [log]
    exact ⟨held desc listening (held' desc listening).1,
      (held' desc listening).2⟩
  · simpa only [log, listens] using closedOnce
  · simpa only [listens] using distinct
  · simpa only [log, serials] using below
  · simpa only [log, listens] using recorded
  · intro desc fired
    simp only [log, listens]
    rcases fires desc fired with before | listening
    · exact firing desc before
    · exact ⟨(recorded desc listening).1, fun other present same =>
        distinct other desc present listening same⟩

theorem failed (log : next.log =
      centre.log ++ [.created centre.serials, .closed centre.serials])
    (serials : next.serials = centre.serials + 1)
    (vector : next.eventVector = centre.eventVector)
    (firing : next.firing = centre.firing) (held : ∀ desc, centre.Listens desc →
      desc.eventHandle ∈ centre.descriptors →
      desc.eventHandle ∈ next.descriptors) : next.Account := by
  have listens : ∀ desc, next.Listens desc ↔ centre.Listens desc := by
    intro desc
    rw [Listens, Listens, vector]
  have fresh : ∀ desc, centre.Listens desc → desc.serial ≠ centre.serials := by
    intro desc listening
    exact Nat.ne_of_lt (account.listens_lt listening)
  refine ⟨⟨?_, ?_, ?_, ?_⟩, ?_, ?_, ?_, ?_, ?_⟩
  · intro serial added deleted expired
    simp only [log, mem_append, mem_cons, not_mem_nil,
      reduceCtorEq, or_false] at added deleted expired
    obtain ⟨desc, listening, named⟩ :=
      account.independent.listened serial added deleted expired
    exact ⟨desc, (listens desc).mpr listening, named⟩
  · intro desc listening
    have before := account.independent.ended desc ((listens desc).mp listening)
    simpa [log] using before
  · intro desc listening
    rw [listens] at listening
    obtain ⟨present, unclosed⟩ := account.independent.held desc listening
    refine ⟨held desc listening present, ?_⟩
    simpa [log, fresh desc listening] using unclosed
  · intro serial known silent
    have gone : ∀ desc, centre.Listens desc → desc.serial ≠ serial := by
      intro desc listening
      exact silent desc ((listens desc).mpr listening)
    by_cases latest : serial = centre.serials
    · subst latest
      have before : centre.log.count (.closed centre.serials) = 0 :=
        count_eq_zero.mpr (account.unused rfl)
      simp [log, before]
    · have earlier : .created serial ∈ centre.log := by
        simpa [log, latest] using known
      have before := account.independent.closedOnce serial earlier gone
      simp [log, before, Ne.symm latest]
  · rw [vector]
    exact account.handles
  · simpa only [listens] using account.distinct
  · intro entry member
    rw [serials]
    simp only [log, mem_append, mem_cons, not_mem_nil, or_false] at member
    rcases member with earlier | rfl | rfl
    any_goals exact Nat.lt_succ_self _
    exact Nat.lt_succ_of_lt (account.below entry earlier)
  · intro desc listening
    have before := account.recorded desc ((listens desc).mp listening)
    simpa [log] using ⟨.inl before.1, before.2⟩
  · intro desc fired
    rw [firing] at fired
    obtain ⟨known, only⟩ := account.fires desc fired
    refine ⟨by simp [log, known], ?_⟩
    simpa only [listens] using only

theorem joined (serial : desc.serial = centre.serials)
    (log : next.log = centre.log ++ [.created desc.serial, .added desc.serial])
    (serials : next.serials = centre.serials + 1)
    (vector : next.eventVector = centre.eventVector ++ [.timer desc])
    (new : centre.findEvcEvent desc.eventHandle = none)
    (firing : next.firing = centre.firing)
    (descriptors : next.descriptors = desc.eventHandle :: centre.descriptors) :
    next.Account := by
  have listens : ∀ other, next.Listens other ↔
      centre.Listens other ∨ other = desc := by
    intro other
    simp [Listens, vector]
  have fresh : ∀ other, centre.Listens other → other.serial ≠ desc.serial := by
    intro other listening
    have earlier := account.listens_lt listening
    omega
  refine ⟨⟨?_, ?_, ?_, ?_⟩, ?_, ?_, ?_, ?_, ?_⟩
  · intro wanted added deleted expired
    simp only [log, mem_append, mem_cons, not_mem_nil, reduceCtorEq, or_false,
      false_or, TimerRecord.added.injEq] at added deleted expired
    rcases added with earlier | rfl
    · obtain ⟨other, listening, named⟩ :=
        account.independent.listened wanted earlier deleted expired
      exact ⟨other, (listens other).mpr (.inl listening), named⟩
    · exact ⟨desc, (listens desc).mpr (.inr rfl), rfl⟩
  · intro other listening
    have before : TimerRecord.expired other.serial ∉ centre.log := by
      rcases (listens other).mp listening with earlier | rfl
      · exact account.independent.ended other earlier
      · exact account.unused serial
    simpa [log] using before
  · intro other listening
    rw [descriptors]
    rcases (listens other).mp listening with earlier | rfl
    · obtain ⟨present, unclosed⟩ := account.independent.held other earlier
      refine ⟨.tail _ present, ?_⟩
      simpa [log] using unclosed
    · refine ⟨.head _, ?_⟩
      have unclosed : TimerRecord.closed other.serial ∉ centre.log :=
        account.unused serial
      simpa [log] using unclosed
  · intro wanted known silent
    have other : wanted ≠ desc.serial := by
      intro same
      exact silent desc ((listens desc).mpr (.inr rfl)) same.symm
    have earlier : .created wanted ∈ centre.log := by
      simpa [log, other] using known
    have gone : ∀ desc, centre.Listens desc → desc.serial ≠ wanted := by
      intro later listening
      exact silent later ((listens later).mpr (.inl listening))
    have before := account.independent.closedOnce wanted earlier gone
    simp [log, before]
  · rw [vector]
    apply nodup_append_singleton account.handles
    exact lookup_eq_none.mp new
  · intro first second left right same
    rcases (listens first).mp left with earlier | rfl
    · rcases (listens second).mp right with also | rfl
      · exact account.distinct first second earlier also same
      · exact absurd same (fresh first earlier)
    · rcases (listens second).mp right with also | rfl
      · exact absurd same.symm (fresh second also)
      · rfl
  · intro entry member
    rw [serials]
    simp only [log, mem_append, mem_cons, not_mem_nil, or_false] at member
    rcases member with earlier | rfl | rfl
    · exact Nat.lt_succ_of_lt (account.below entry earlier)
    · exact Nat.lt_succ_of_le (Nat.le_of_eq serial)
    · exact Nat.lt_succ_of_le (Nat.le_of_eq serial)
  · intro other listening
    rcases (listens other).mp listening with earlier | rfl
    · have before := account.recorded other earlier
      simpa [log] using ⟨.inl before.1, .inl before.2.1, before.2.2⟩
    · have undeleted : TimerRecord.deleted other.serial ∉ centre.log :=
        account.unused serial
      simpa [log] using undeleted
  · intro fired isFiring
    rw [firing] at isFiring
    obtain ⟨known, only⟩ := account.fires fired isFiring
    refine ⟨by simp [log, known], ?_⟩
    intro other listening same
    rcases (listens other).mp listening with earlier | rfl
    · exact only other earlier same
    · have before := account.created_lt known
      omega

theorem left (listening : centre.Listens desc) {ending : TimerRecord}
    (ends : ending = .deleted desc.serial ∨ ending = .expired desc.serial)
    (log : next.log = centre.log ++ [ending, .closed desc.serial])
    (serials : next.serials = centre.serials) (vector : next.eventVector =
      remove EvcEvent.eventHandle desc.eventHandle centre.eventVector)
    (firing : next.firing = centre.firing ∨ next.firing = none)
    (descriptors : ∀ number, number ∈ next.descriptors ↔
      number ∈ centre.descriptors ∧ number ≠ desc.eventHandle) :
    next.Account := by
  have listens : ∀ other, next.Listens other ↔
      centre.Listens other ∧ other.eventHandle ≠ desc.eventHandle := by
    intro other
    rw [Listens, vector]
    exact mem_remove account.handles
  have fresh : ∀ other, next.Listens other → other.serial ≠ desc.serial := by
    intro other remaining same
    obtain ⟨before, elsewhere⟩ := (listens other).mp remaining
    apply elsewhere
    rw [account.distinct other desc before listening same]
  refine ⟨⟨?_, ?_, ?_, ?_⟩, ?_, ?_, ?_, ?_, ?_⟩
  · intro serial added deleted expired
    have other : serial ≠ desc.serial := by
      rintro rfl
      rcases ends with rfl | rfl
      · simp [log] at deleted
      · simp [log] at expired
    have earlier : .added serial ∈ centre.log := by
      rcases ends with rfl | rfl
      all_goals simpa [log] using added
    have undeleted : .deleted serial ∉ centre.log := by
      intro member
      simp [log, member] at deleted
    have unexpired : .expired serial ∉ centre.log := by
      intro member
      simp [log, member] at expired
    obtain ⟨found, present, named⟩ :=
      account.independent.listened serial earlier undeleted unexpired
    refine ⟨found, (listens found).mpr ⟨present, ?_⟩, named⟩
    intro same
    rw [account.same_handle present listening same] at named
    exact other named.symm
  · intro other remaining
    have before :=
      account.independent.ended other ((listens other).mp remaining).1
    have differs := fresh other remaining
    rcases ends with rfl | rfl
    all_goals simp [log, before, differs]
  · intro other remaining
    obtain ⟨present, elsewhere⟩ := (listens other).mp remaining
    obtain ⟨isOpen, unclosed⟩ := account.independent.held other present
    have differs := fresh other remaining
    refine ⟨(descriptors _).mpr ⟨isOpen, elsewhere⟩, ?_⟩
    rcases ends with rfl | rfl
    all_goals simp [log, unclosed, differs]
  · intro serial known silent
    have earlier : .created serial ∈ centre.log := by
      rcases ends with rfl | rfl
      all_goals simpa [log] using known
    have count : next.log.count (.closed serial) =
        centre.log.count (.closed serial) +
          if desc.serial = serial then 1 else 0 := by
      rw [log, count_append]
      rcases ends with rfl | rfl
      all_goals simp [count_cons]
    rw [count]
    by_cases same : desc.serial = serial
    · subst same
      have before := (account.independent.held desc listening).2
      simp [count_eq_zero.mpr before]
    · have gone : ∀ other, centre.Listens other → other.serial ≠ serial := by
        intro other present
        by_cases here : other.eventHandle = desc.eventHandle
        · rw [account.same_handle present listening here]
          exact same
        · exact silent other ((listens other).mpr ⟨present, here⟩)
      simp [same, account.independent.closedOnce serial earlier gone]
  · rw [vector]
    exact (remove_sublist.map _).nodup account.handles
  · intro first second one two same
    exact account.distinct first second ((listens first).mp one).1
      ((listens second).mp two).1 same
  · have known := account.listens_lt listening
    intro entry member
    rw [serials]
    simp only [log, mem_append, mem_cons, not_mem_nil, or_false] at member
    rcases member with earlier | rfl | rfl
    · exact account.below entry earlier
    · rcases ends with rfl | rfl <;> exact known
    · exact known
  · intro other remaining
    have before := account.recorded other ((listens other).mp remaining).1
    have differs := fresh other remaining
    rcases ends with rfl | rfl
    all_goals simp [log, before, differs]
  · intro fired isFiring
    have earlier : centre.firing = some fired := by
      rcases firing with same | none
      · rw [← same]
        exact isFiring
      · rw [none] at isFiring
        cases isFiring
    obtain ⟨known, only⟩ := account.fires fired earlier
    refine ⟨by simp [log, known], ?_⟩
    intro other remaining
    exact only other ((listens other).mp remaining).1

theorem faded (fired : centre.firing = some desc)
    (silent : ¬ centre.Listens desc)
    (log : next.log = centre.log ++ [.expired desc.serial])
    (serials : next.serials = centre.serials)
    (vector : next.eventVector = centre.eventVector)
    (firing : next.firing = none)
    (descriptors : next.descriptors = centre.descriptors) : next.Account := by
  obtain ⟨known, only⟩ := account.fires desc fired
  have listens : ∀ other, next.Listens other ↔ centre.Listens other := by
    intro other
    rw [Listens, Listens, vector]
  have differs : ∀ other, centre.Listens other →
      other.serial ≠ desc.serial := by
    intro other listening same
    rw [only other listening same] at listening
    exact silent listening
  refine ⟨⟨?_, ?_, ?_, ?_⟩, ?_, ?_, ?_, ?_, ?_⟩
  · intro serial added deleted expired
    simp only [log, mem_append, mem_cons, not_mem_nil,
      reduceCtorEq, or_false, not_or] at added deleted expired
    obtain ⟨found, listening, named⟩ :=
      account.independent.listened serial added deleted expired.1
    exact ⟨found, (listens found).mpr listening, named⟩
  · intro other listening
    rw [listens] at listening
    simp [log, account.independent.ended other listening,
      differs other listening]
  · intro other listening
    rw [listens] at listening
    obtain ⟨isOpen, unclosed⟩ := account.independent.held other listening
    rw [descriptors]
    refine ⟨isOpen, ?_⟩
    simpa [log] using unclosed
  · intro serial earlier gone
    simp only [log, mem_append, mem_cons, not_mem_nil,
      reduceCtorEq, or_false] at earlier
    simp only [listens] at gone
    simpa [log] using account.independent.closedOnce serial earlier gone
  · rw [vector]
    exact account.handles
  · simpa only [listens] using account.distinct
  · intro entry member
    rw [serials]
    rw [log, mem_append, mem_singleton] at member
    rcases member with earlier | rfl
    · exact account.below entry earlier
    · exact account.created_lt known
  · intro other listening
    simpa [log] using account.recorded other ((listens other).mp listening)
  · rw [firing]
    exact nofun

end Account

section

variable (account : centre.Account)
include account

theorem Account.listen (eventHandle : Nat)
    (new : centre.findEvcEvent eventHandle = none) : { centre with
      eventVector := centre.eventVector ++
        [EvcEvent.event eventHandle] }.Account := by
  refine account.frame rfl rfl ?_ ?_ ?_ ?_
  · intro desc
    simp [Listens]
  · apply nodup_append_singleton account.handles
    exact lookup_eq_none.mp new
  · exact fun _ _ present => present
  · exact fun _ fired => .inl fired

theorem Account.occupy (fd : Nat) :
    { centre with descriptors := fd :: centre.descriptors }.Account := by
  refine account.frame rfl rfl ?_ ?_ ?_ ?_
  · exact fun _ => Iff.rfl
  · exact account.handles
  · exact fun _ _ present => .tail _ present
  · exact fun _ fired => .inl fired

theorem Account.close {fd : Nat}
    (foreign : ∀ desc, centre.Listens desc → desc.eventHandle ≠ fd) :
    (centre.close fd).Account := by
  refine account.frame rfl rfl ?_ ?_ ?_ ?_
  · exact fun _ => Iff.rfl
  · exact account.handles
  · intro desc listening present
    simpa using ⟨present, foreign desc listening⟩
  · exact fun _ fired => .inl fired

theorem findEvcEvent_of_listens {desc : TimerDesc}
    (listening : centre.Listens desc) :
    centre.findEvcEvent desc.eventHandle = some (.timer desc) :=
  lookup_of_mem account.handles listening

end

theorem listens_of_findEvcEvent {eventHandle : Nat}
    (found : centre.findEvcEvent eventHandle = some (.timer desc)) :
    centre.Listens desc ∧ desc.eventHandle = eventHandle := by
  have named : EvcEvent.eventHandle (.timer desc) = eventHandle :=
    lookup_key found
  exact ⟨lookup_mem found, named⟩

theorem Account.handle_ne (account : centre.Account)
    (listening : centre.Listens desc) :
    desc.eventHandle ≠ lowestFree centre.descriptors := by
  intro same
  apply (lowestFree_least centre.descriptors).1
  rw [← same]
  exact (account.independent.held desc listening).1

theorem Account.eventAdd (account : centre.Account) (fate : ListenFate) :
    (centre.eventAdd fate).Account := by
  have opened := account.occupy (lowestFree centre.descriptors)
  have closes : ∀ desc, centre.Listens desc →
      desc.eventHandle ≠ lowestFree centre.descriptors :=
    fun _ => account.handle_ne
  unfold EventCentre.eventAdd
  simp only
  rcases evcListenEvent_cases { centre with
      descriptors := lowestFree centre.descriptors :: centre.descriptors }
      (.event (lowestFree centre.descriptors)) fate with
    ⟨error, _, refused⟩ | ⟨_, _, failed⟩ | ⟨registers, _, listened⟩
  · rw [refused]
    exact opened.close closes
  · rw [failed]
    apply Account.close
    · exact opened.close closes
    · exact closes
  · rw [listened]
    exact opened.listen _ registers.2.2.1

/-- The centre once `timerfd_create` has given a number. -/
def timerCreated (centre : EventCentre) : EventCentre :=
  { centre with
    descriptors := lowestFree centre.descriptors :: centre.descriptors
    serials := centre.serials + 1 }.note (.created centre.serials)

theorem timerAdd_cases (centre : EventCentre) (period : Bool) (fate : AddFate) :
    let tFd := lowestFree centre.descriptors
    let desc : TimerDesc := ⟨tFd, period, centre.serials⟩
    let closed := (centre.timerCreated.close tFd).note (.closed centre.serials)
    let result := (centre.timerAdd period fate).1
    ((fate.memory = false ∨ fate.create = false) ∧ result = centre) ∨
    (fate.memory = true ∧ fate.create = true ∧
      ((tFd = 0 ∧ result = centre.timerCreated) ∨
      (tFd ≠ 0 ∧ (fate.settime = true → ¬ centre.Registers tFd fate.listen) ∧
        result = closed) ∨
      (tFd ≠ 0 ∧ fate.settime = true ∧ centre.Registers tFd fate.listen ∧
        fate.listen.epollCtl = false ∧
        result = (closed.close tFd).note (.closed centre.serials)) ∨
      (tFd ≠ 0 ∧ centre.Registers tFd fate.listen ∧
        fate.listen.epollCtl = true ∧
        result = { centre.timerCreated with
          eventVector := centre.eventVector ++ [EvcEvent.timer desc] }.note
            (.added centre.serials)))) := by
  intro tFd desc closed result
  cases memory : fate.memory with
  | false => exact .inl ⟨.inl rfl, by simp [result, timerAdd, memory]⟩
  | true =>
  cases create : fate.create with
  | false => exact .inl ⟨.inr rfl, by simp [result, timerAdd, memory, create]⟩
  | true =>
  refine .inr ⟨rfl, rfl, ?_⟩
  by_cases zero : tFd = 0
  · exact .inl ⟨zero, by simp [result, timerAdd, memory, create,
      show lowestFree centre.descriptors = 0 from zero, timerCreated]⟩
  have positive : lowestFree centre.descriptors ≠ 0 := zero
  cases settime : fate.settime with
  | false =>
    refine .inr (.inl ⟨zero, nofun, ?_⟩)
    simp [result, timerAdd, memory, create, positive, settime, closed, tFd,
      timerCreated]
  | true =>
  let listened := centre.timerCreated.evcListenEvent (.timer desc) fate.listen
  have reached : result = listened.2.elim
      (listened.1.note (.added centre.serials)) fun _ =>
        (listened.1.close tFd).note (.closed centre.serials) := by
    simp only [result, timerAdd, memory, create, positive, settime,
      timerCreated, tFd, desc, Bool.true_eq_false, if_false, listened]
    split <;> simp_all
  rw [reached]
  unfold listened
  rcases evcListenEvent_cases centre.timerCreated (.timer desc) fate.listen with
    ⟨error, unregistered, refused⟩ | ⟨registers, epollCtl, failed⟩ |
      ⟨registers, epollCtl, listened⟩
  · rw [refused]
    exact .inr (.inl ⟨zero, fun _ => unregistered, rfl⟩)
  · rw [failed]
    exact .inr (.inr (.inl ⟨zero, rfl, registers, epollCtl, rfl⟩))
  · rw [listened]
    exact .inr (.inr (.inr ⟨zero, registers, epollCtl, rfl⟩))

section

variable (account : centre.Account)
include account

theorem Account.timerAdd (period : Bool) (fate : AddFate)
    (clear : centre.Clear (.timerAdd period fate)) :
    (centre.timerAdd period fate).1.Account := by
  rcases timerAdd_cases centre period fate with ⟨_, same⟩ |
    ⟨memory, create, outcome⟩
  · rw [same]
    exact account
  · obtain ⟨positive, accepted⟩ := clear memory create
    rcases outcome with ⟨zero, _⟩ | ⟨_, _, closed⟩ |
      ⟨_, settime, registers, refused, _⟩ | ⟨_, registers, _, added⟩
    · exact absurd zero positive
    · rw [closed]
      refine account.failed (by simp [timerCreated]) rfl rfl rfl ?_
      intro desc listening present
      simpa [timerCreated] using ⟨.inr present, account.handle_ne listening⟩
    · rw [accepted settime registers] at refused
      cases refused
    · rw [added]
      exact account.joined rfl (by simp [timerCreated]) rfl rfl
        registers.2.2.1 rfl rfl

theorem Account.cancelEvent {number fd : Nat}
    (found : centre.findEvcEvent number = some (.event fd)) : ({ centre with
      eventVector := remove EvcEvent.eventHandle number
        centre.eventVector }.close fd).Account := by
  have named : EvcEvent.eventHandle (.event fd) = number := lookup_key found
  change fd = number at named
  have apart : ∀ desc, centre.Listens desc → desc.eventHandle ≠ fd := by
    intro desc listening same
    have timer := findEvcEvent_of_listens account listening
    rw [same, named, found] at timer
    cases timer
  refine account.frame rfl rfl ?_ ?_ ?_ ?_
  · intro desc
    have kept : EvcEvent.timer desc ∈
          remove EvcEvent.eventHandle number centre.eventVector ↔
        centre.Listens desc ∧ desc.eventHandle ≠ number :=
      mem_remove account.handles
    constructor
    · exact fun listening => (kept.mp listening).1
    · exact fun listening => kept.mpr ⟨listening, named ▸ apart desc listening⟩
  · exact (remove_sublist.map _).nodup account.handles
  · intro desc listening isOpen
    simpa using ⟨isOpen, apart desc listening⟩
  · exact fun _ fired => .inl fired

theorem Account.timerDel (handle : Int) :
    ((centre.noteDeleted handle).timerDel handle).Account := by
  unfold EventCentre.timerDel
  cases found : centre.findEvcEvent handle.toNat with
  | none =>
    have unnoted : centre.noteDeleted handle = centre := by
      simp [noteDeleted, found]
    rw [unnoted]
    rcases evcCancelEvent_cases centre handle with
      ⟨same, _⟩ | ⟨event, _, located, _⟩
    · rw [same]
      exact account
    · rw [found] at located
      cases located
  | some event =>
    cases event with
    | event fd =>
      have unnoted : centre.noteDeleted handle = centre := by
        simp [noteDeleted, found]
      rw [unnoted]
      rcases evcCancelEvent_cases centre handle with
        ⟨same, _⟩ | ⟨event, _, located, cancelled⟩
      · rw [same]
        exact account
      · rw [found] at located
        cases located
        rw [cancelled]
        exact account.cancelEvent found
    | timer desc =>
      obtain ⟨listening, named⟩ := listens_of_findEvcEvent found
      by_cases negative : handle < 0
      · have unnoted : centre.noteDeleted handle = centre := by
          simp [noteDeleted, found, negative]
        rw [unnoted]
        simpa [evcCancelEvent, negative] using account
      · have noted : centre.noteDeleted handle =
            centre.note (.deleted desc.serial) := by
          simp [noteDeleted, found, negative]
        rw [noted]
        rcases evcCancelEvent_cases
            (centre.note (.deleted desc.serial)) handle with
          ⟨_, absent⟩ | ⟨event, _, located, cancelled⟩
        · have none := absent (by omega)
          rw [show (centre.note _).findEvcEvent handle.toNat =
            centre.findEvcEvent handle.toNat from rfl, found] at none
          cases none
        · have same : some event = some (.timer desc) := by
            rw [← located, ← found]
            rfl
          cases same
          rw [cancelled]
          refine account.left listening (.inl rfl) ?_ rfl ?_ (.inl rfl) ?_
          · simp [cleanDesc]
          · rw [named]
            rfl
          · intro number
            simp [cleanDesc]

theorem Account.processEvent (eventHandle readLen : Nat) :
    (centre.evcProcessEvent eventHandle readLen).Account := by
  unfold evcProcessEvent
  split
  case h_1 desc found =>
    split
    · refine account.frame rfl rfl ?_ ?_ ?_ ?_
      · exact fun _ => Iff.rfl
      · exact account.handles
      · exact fun _ _ present => present
      · intro fired starts
        cases starts
        exact .inr (listens_of_findEvcEvent found).1
    · exact account
  case h_2 => exact account

end

def expired (centre : EventCentre) (desc : TimerDesc) : EventCentre :=
  { centre with firing := none }.note (.expired desc.serial)

theorem timerProcReturn_oneShot (fired : centre.firing = some desc)
    (oneShot : desc.period = false) : centre.timerProcReturn =
      (centre.expired desc).evcCancelEvent desc.eventHandle := by
  simp [timerProcReturn, fired, oneShot, expired, timerDel]

section

variable (account : centre.Account)
include account

theorem Account.callbackReturns (clear : centre.Clear .callbackReturns) :
    centre.timerProcReturn.Account := by
  cases fired : centre.firing with
  | none => simpa [timerProcReturn, fired] using account
  | some desc =>
    cases period : desc.period with
    | true =>
      rw [show centre.timerProcReturn = { centre with firing := none } by
        simp [timerProcReturn, fired, period]]
      refine account.frame rfl rfl ?_ account.handles ?_ nofun
      · exact fun _ => Iff.rfl
      · exact fun _ _ present => present
    | false =>
      have only : ∀ other, centre.Listens other →
          other.eventHandle = desc.eventHandle → other = desc :=
        clear desc fired period
      rw [timerProcReturn_oneShot fired period]
      rcases evcCancelEvent_cases (centre.expired desc) desc.eventHandle with
        ⟨same, absent⟩ | ⟨event, _, located, cancelled⟩
      · rw [same]
        refine account.faded fired ?_ rfl rfl rfl rfl rfl
        intro listening
        have none := absent (by omega)
        have found := findEvcEvent_of_listens account listening
        cases none.symm.trans found
      · have found : centre.findEvcEvent desc.eventHandle =
            some event := located
        rw [cancelled, Int.toNat_natCast]
        cases event with
        | event fd =>
          have silent : ¬ centre.Listens desc := by
            intro listening
            have timer := findEvcEvent_of_listens account listening
            cases timer.symm.trans found
          have waned : (centre.expired desc).Account :=
            account.faded fired silent rfl rfl rfl rfl rfl
          exact waned.cancelEvent found
        | timer other =>
          obtain ⟨listening, named⟩ := listens_of_findEvcEvent found
          cases only other listening named
          refine account.left listening (.inr rfl) ?_ rfl rfl (.inr rfl) ?_
          · simp [cleanDesc, expired]
          · intro number
            simp [cleanDesc, expired]

theorem Account.step (input : EvcInput) (clear : centre.Clear input) :
    (centre.step input).Account := by
  cases input with
  | timerAdd period fate => exact account.timerAdd period fate clear
  | timerDel handle => exact account.timerDel handle
  | eventAdd fate => exact account.eventAdd fate
  | occupy => exact account.occupy _
  | vacate fd =>
    simp only [EventCentre.step]
    split
    · exact account
    next foreign =>
      apply account.close
      intro desc listening same
      apply foreign
      rw [← same]
      exact mem_map_of_mem (f := EvcEvent.eventHandle) listening
  | processEvent eventHandle readLen =>
    simp only [EventCentre.step]
    split
    · exact account
    · exact account.processEvent eventHandle readLen
  | callbackReturns => exact account.callbackReturns clear

theorem Account.not_independent {next : EventCentre}
    (independent : next.Independent)
    (vector : next.eventVector = centre.eventVector)
    (known : .created centre.serials ∈ next.log)
    (count : next.log.count (.closed centre.serials) ≠ 1) : False := by
  apply count
  apply independent.closedOnce _ known
  intro desc listening
  rw [Listens, vector] at listening
  exact Nat.ne_of_lt (account.listens_lt listening)

theorem Account.clear_timerAdd {period : Bool} {fate : AddFate}
    (independent : (centre.timerAdd period fate).1.Independent) :
    centre.Clear (.timerAdd period fate) := by
  have unclosed : centre.log.count (.closed centre.serials) = 0 :=
    count_eq_zero.mpr (account.unused rfl)
  intro memory create
  rcases timerAdd_cases centre period fate with ⟨failed, _⟩ | ⟨_, _, outcome⟩
  · simp [memory, create] at failed
  rcases outcome with ⟨_, leaked⟩ | ⟨positive, unregistered, _⟩ |
    ⟨_, _, _, _, twice⟩ | ⟨positive, _, epollCtl, _⟩
  · exfalso
    rw [leaked] at independent
    refine account.not_independent independent rfl ?_ ?_
    · simp [timerCreated]
    · simp [timerCreated, unclosed]
  · exact ⟨positive, fun settime registers =>
      absurd registers (unregistered settime)⟩
  · exfalso
    rw [twice] at independent
    refine account.not_independent independent rfl ?_ ?_
    · simp [timerCreated]
    · simp [timerCreated, unclosed]
  · exact ⟨positive, fun _ _ => epollCtl⟩

theorem Account.clear_callbackReturns
    (independent : centre.timerProcReturn.Independent) :
    centre.Clear .callbackReturns := by
  intro desc fired oneShot other listening same
  by_contra differs
  have serial : other.serial ≠ desc.serial := by
    intro equal
    exact differs ((account.fires desc fired).2 other listening equal)
  have found : (centre.expired desc).findEvcEvent desc.eventHandle =
      some (.timer other) := by
    rw [← same]
    exact findEvcEvent_of_listens account listening
  have cancelled : centre.timerProcReturn =
      { centre.expired desc with
        eventVector := remove EvcEvent.eventHandle desc.eventHandle
          centre.eventVector }.cleanDesc (.timer other) := by
    rw [timerProcReturn_oneShot fired oneShot, evcCancelEvent,
      if_neg (by omega), Int.toNat_natCast, found]
    rfl
  rw [cancelled] at independent
  have recorded := account.recorded other listening
  obtain ⟨remaining, listens, named⟩ :=
    independent.listened other.serial
      (by simp [cleanDesc, expired, recorded.2.1])
      (by simp [cleanDesc, expired, recorded.2.2])
      (by simp [cleanDesc, expired, serial,
        account.independent.ended other listening])
  have kept : centre.Listens remaining ∧
      remaining.eventHandle ≠ desc.eventHandle :=
    (mem_remove account.handles).mp listens
  apply kept.2
  have identical := account.distinct remaining other kept.1 listening named
  rw [identical]
  exact same

theorem Account.clear_of_independent {input : EvcInput}
    (independent : (centre.step input).Independent) : centre.Clear input := by
  cases input with
  | timerAdd period fate => exact account.clear_timerAdd independent
  | callbackReturns => exact account.clear_callbackReturns independent
  | _ => trivial

end

/-- In a run every timer is listened for until its owner deletes it or it
expires, and has its descriptor closed once, exactly when no callback of a
one-shot timer leaves its number to another timer, `epoll_ctl` takes every
timer and none is given the descriptor 0. -/
theorem independent_iff_clear (descriptors : List Nat)
    (inputs : List EvcInput) :
    Always step Independent (created descriptors) inputs ↔
      Meets step Clear (created descriptors) inputs :=
  always_iff_meets (fun _ account => account.independent)
    (fun _ input account clear => account.step input clear)
    (fun _ _ account => account.clear_of_independent)
    (account_created descriptors)

/-- The callback of the first timer deletes it and starts another, as a scan
that goes on does; the second timer has the number 3 as well. -/
def rearming : List EvcInput :=
  [.timerAdd false {}, .processEvent 3 8, .timerDel 3, .timerAdd false {},
    .callbackReturns]

theorem independent_rearming :
    ¬ Always step Independent (created [0, 1, 2]) rearming := by
  intro always
  have independent := always.at_end
  obtain ⟨desc, listening, _⟩ :=
    independent.listened 1 (by decide) (by decide) (by decide)
  cases listening

end EventCentre

end NearLink.Sdf
