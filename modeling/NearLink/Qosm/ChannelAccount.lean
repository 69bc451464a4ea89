import NearLink.Qosm.ChannelMoves
import NearLink.Qosm.ChannelNumber

/-!
# The budget of channels

The numbers of the QoS manager are compared with the channels that the
connection manager holds for its links.  A run keeps them equal as long as
every answer finds the channel in the state in which the QoS manager counted
it.
-/

namespace NearLink.Qosm

open Keyed Transition Cm List Device

def counts (channel : DynChannel) : Bool :=
  channel.state = .activating || channel.state = .activated

def liveOn (lcid : Nat) (channels : List DynChannel) : Nat :=
  channels.countP fun channel => channel.lcid = lcid && counts channel

def live (channels : List DynChannel) : Nat := channels.countP counts

structure Tallied (number : ChannelNum) (channels : List DynChannel) :
    Prop where
  sound : number.Sound
  perLink : ∀ lcid, number.numberOf lcid = liveOn lcid channels
  total : number.channelTotalNum.toNat = live channels

namespace System

/-- The numbers are those of the channels, and a request is refused for want
of budget only when that many channels exist. -/
structure Counted (system : System) : Prop where
  tallied : Tallied system.tables.number system.device.channels
  refused : system.tables.number.exceedsMaxSize = true →
    channelMaxSize.toNat ≤ live system.device.channels

def Fair (system : System) (fate : Fate) : DeviceLog → Prop
  | .establishAccepted channel =>
    system.tables.number.HasRoom channel.lcid fate.numNode
  | .statusIndication channel true _ =>
    system.tables.number.HasRoom channel.lcid fate.numNode
  | .establishRsp _ result => result = rspSuccess
  | .releaseRsp channel _ => channel.state = .releasing
  | .releaseAccepted channel => channel.state = .releasing →
      liveOn channel.lcid system.device.channels = 0
  | .statusIndication channel false _ => channel.state = .releasing →
      liveOn channel.lcid system.device.channels = 0
  | _ => True

def Keeps (system : System) (fate : Fate) : DeviceEvent → Prop
  | .linkDown lcid allocated =>
    allocated = true ∨ liveOn lcid system.device.channels = 0
  | event =>
    (∀ entry ∈ answers system.device event, system.Fair fate entry) ∧
    ∀ channel, system.device.startsRelease event = some channel →
      channel.state = .releasing →
      .releaseAccepted channel ∈ answers system.device event

/-- No establishment is refused or times out, no channel that is being
released is released once more by either end while its link has live channels,
a release is answered only for a channel that is being released, the channels
of a link that goes down are found, and there is room for each number. -/
def Clear (system : System) (event : Event) : Prop :=
  ∀ deviceEvent, system.forwarded event.input = some deviceEvent →
    system.Keeps event.fate deviceEvent

end System

/-- The channels of a link that count are as many as before, less the first and
more the second; those of the other links are the same. -/
structure Shift (channels after : List DynChannel) (lcid : Nat)
    (less more : Bool) : Prop where
  perLink : ∀ other, liveOn other after +
      (if other = lcid then less.toNat else 0) =
    liveOn other channels + if other = lcid then more.toNat else 0
  total : live after + less.toNat = live channels + more.toNat

section Channels

variable {channels : List DynChannel} {channel : DynChannel}

theorem counts_link (other : Nat) (channel : DynChannel) :
    (if (channel.lcid = other && counts channel) = true then 1 else 0) =
      if other = channel.lcid then (counts channel).toNat else 0 := by
  by_cases here : channel.lcid = other
  · cases counted : counts channel <;> simp [here]
  · simp [here, Ne.symm here]

theorem toNat_counts (channel : DynChannel) :
    (if counts channel = true then 1 else 0) = (counts channel).toNat := by
  cases counts channel <;> rfl

section

variable (distinct : (channels.map DynChannel.serial).Nodup)
  (member : channel ∈ channels)
include distinct member

theorem countP_remove (test : DynChannel → Bool) :
    (remove DynChannel.serial channel.serial channels).countP test +
        (if test channel = true then 1 else 0) =
      channels.countP test := by
  have located := lookup_of_mem distinct member
  rw [(perm_of_lookup located).countP_eq test, countP_cons]

theorem countP_modify (change : DynChannel → DynChannel)
    (test : DynChannel → Bool) :
    (modify DynChannel.serial channel.serial change channels).countP test +
        (if test channel = true then 1 else 0) =
      channels.countP test +
        if test (change channel) = true then 1 else 0 := by
  have located := lookup_of_mem distinct member
  have freed := countP_remove distinct member test
  rw [(modify_perm_of_lookup change located).countP_eq test, countP_cons]
  omega

end

theorem shift_append (channels : List DynChannel) (channel : DynChannel) :
    Shift channels (channels ++ [channel]) channel.lcid false
      (counts channel) where
  perLink other := by
    simp only [liveOn, countP_append, countP_singleton,
      counts_link, Bool.toNat_false, ite_self, Nat.add_zero]
  total := by
    simp only [live, countP_append, countP_singleton, toNat_counts,
      Bool.toNat_false, Nat.add_zero]

section

variable (distinct : (channels.map DynChannel.serial).Nodup)
  (member : channel ∈ channels)
include distinct member

theorem shift_remove :
    Shift channels (remove DynChannel.serial channel.serial channels)
      channel.lcid (counts channel) false where
  perLink other := by
    have freed := countP_remove distinct member fun channel =>
      channel.lcid = other && counts channel
    rw [counts_link] at freed
    simpa [liveOn] using freed
  total := by
    have freed := countP_remove distinct member counts
    rw [toNat_counts] at freed
    simpa [live] using freed

theorem shift_modify (change : DynChannel → DynChannel)
    (keeps : (change channel).lcid = channel.lcid) :
    Shift channels (modify DynChannel.serial channel.serial change channels)
      channel.lcid (counts channel) (counts (change channel)) where
  perLink other := by
    have moved := countP_modify distinct member change fun channel =>
      channel.lcid = other && counts channel
    rw [counts_link, counts_link, keeps] at moved
    exact moved
  total := by
    have moved := countP_modify distinct member change counts
    rw [toNat_counts, toNat_counts] at moved
    exact moved

end

theorem live_split (lcid : Nat) :
    live (channels.filter fun channel => channel.lcid ≠ lcid) +
      liveOn lcid channels = live channels := by
  have split := countP_eq_countP_filter_add channels counts
    fun channel => channel.lcid ≠ lcid
  have rest : (channels.filter fun channel =>
      !decide (channel.lcid ≠ lcid)).countP counts = liveOn lcid channels := by
    rw [countP_filter]
    apply countP_congr
    intro channel _
    by_cases here : channel.lcid = lcid <;> simp [here]
  rw [rest] at split
  exact split.symm

theorem liveOn_filter (lcid other : Nat) :
    liveOn other (channels.filter fun channel => channel.lcid ≠ lcid) =
      if other = lcid then 0 else liveOn other channels := by
  unfold liveOn
  rw [countP_filter]
  split
  case isTrue same =>
    rw [countP_eq_zero]
    intro channel _
    simp only [same]
    by_cases here : channel.lcid = lcid <;> simp [here]
  case isFalse differs =>
    apply countP_congr
    intro channel _
    by_cases here : channel.lcid = other
    · simp [here, differs]
    · simp [here]

end Channels

section Tallied

variable {number : ChannelNum} {channels after : List DynChannel}
  {lcid : Nat} {less more allocated : Bool}

theorem toNat_inj {less more : Bool} (same : less.toNat = more.toNat) :
    less = more := by
  cases less <;> cases more <;> first | rfl | cases same

variable (tallied : Tallied number channels)
include tallied

theorem Tallied.same_iff (shift : Shift channels after lcid less more) :
    Tallied number after ↔ less = more := by
  have total := shift.total
  constructor
  · intro again
    apply toNat_inj
    have before := tallied.total
    have behind := again.total
    omega
  · rintro rfl
    refine ⟨tallied.sound, ?_, by rw [tallied.total]; omega⟩
    intro other
    have shifted := shift.perLink other
    rw [tallied.perLink]
    omega

theorem Tallied.increase_iff (shift : Shift channels after lcid false true) :
    Tallied (number.increase lcid allocated) after ↔
      number.HasRoom lcid allocated := by
  have total := shift.total
  have before := tallied.total
  constructor
  · intro again
    have behind := again.total
    have shifted := shift.perLink lcid
    have entry := tallied.perLink lcid
    have entryAfter := again.perLink lcid
    simp only [Bool.toNat_false, Bool.toNat_true, if_true] at total shifted
    apply tallied.sound.hasRoom
    · omega
    · omega
  · intro room
    obtain ⟨sound, counted, entries⟩ := tallied.sound.increase room
    simp only [Bool.toNat_false, Bool.toNat_true] at total
    refine ⟨sound, ?_, by omega⟩
    intro other
    have shifted := shift.perLink other
    have entry := tallied.perLink other
    have entryAfter := entries other
    simp only [Bool.toNat_false, Bool.toNat_true, ite_self] at shifted
    omega

/-- A number that is taken back fits a channel that counts no longer, or there
was none to take back. -/
theorem Tallied.decrease_iff (shift : Shift channels after lcid less false) :
    Tallied (number.decrease lcid) after ↔
      less = true ∨ liveOn lcid channels = 0 := by
  have total := shift.total
  have shifted := shift.perLink lcid
  have entry := tallied.perLink lcid
  simp only [Bool.toNat_false, if_true] at total shifted
  by_cases zero : number.numberOf lcid = 0
  · have none : liveOn lcid channels = 0 := by omega
    have unchanged : less = false := by
      apply toNat_inj
      simp only [Bool.toNat_false]
      omega
    rw [tallied.sound.decrease_zero zero, tallied.same_iff shift]
    simp [none, unchanged]
  · obtain ⟨sound, counted, entries⟩ := tallied.sound.decrease zero
    have before := tallied.total
    constructor
    · intro again
      left
      have behind := again.total
      apply toNat_inj
      simp only [Bool.toNat_true]
      omega
    · rintro (rfl | none)
      · simp only [Bool.toNat_true] at total
        refine ⟨sound, ?_, by omega⟩
        intro other
        have moved := shift.perLink other
        have here := tallied.perLink other
        have entryAfter := entries other
        simp only [Bool.toNat_false, Bool.toNat_true, ite_self] at moved
        omega
      · omega

theorem Tallied.clear (lcid : Nat) : Tallied (number.clear lcid)
      (channels.filter fun channel => channel.lcid ≠ lcid) := by
  obtain ⟨sound, total, entries⟩ := tallied.sound.clear lcid
  have split := @live_split channels lcid
  have before := tallied.total
  have here := tallied.perLink lcid
  refine ⟨sound, ?_, by omega⟩
  intro other
  rw [entries, liveOn_filter, tallied.perLink]

end Tallied

def numberAnswered (fate : Fate) (number : ChannelNum) :
    DeviceLog → ChannelNum
  | .establishAccepted channel => number.increase channel.lcid fate.numNode
  | .releaseAccepted channel => number.decrease channel.lcid
  | .statusIndication channel _ result =>
    if result = indicationNormal then
      number.increase channel.lcid fate.numNode
    else if result = indicationDisconnected then
      number.decrease channel.lcid
    else number
  | _ => number

namespace Tables

variable {tables : Tables} {lcid : Nat} {rsp : TransChannelRspParams}
  {allocated updated : Bool}

@[simp] theorem updateConnParams_number :
    (tables.updateConnParams lcid updated).number = tables.number := by
  unfold updateConnParams
  split
  · rfl
  · dsimp only
    split
    · rfl
    · have inner (slqi : UInt8) :
          (tables.updateConnParamsInner lcid slqi updated).1.number =
            tables.number := by
        unfold updateConnParamsInner
        split <;> rfl
      split
      case h_1 refused outcome =>
        have same := congrArg (·.1.number) outcome
        exact same.symm.trans (inner _)
      case h_2 accepted outcome =>
        have same := congrArg (·.1.number) outcome
        exact same.symm.trans (inner _)

@[simp] theorem transChannelAdd_number :
    (tables.transChannelAdd lcid rsp allocated).1.number = tables.number := by
  unfold transChannelAdd
  split
  · rfl
  · split <;> rfl

@[simp] theorem transChannelDel_number :
    (tables.transChannelDel lcid rsp).1.number = tables.number := by
  unfold transChannelDel
  split <;> rfl

theorem listed_number {moved : Tables × Bool} {type : UInt8}
    (same : moved.1.number = tables.number) :
    (match moved with
      | (listed, true) =>
        if type ≠ radioFrameType4 then listed.updateConnParams lcid updated
        else listed
      | (failed, false) => failed).number = tables.number := by
  obtain ⟨listed, done⟩ := moved
  cases done with
  | true =>
    dsimp only
    split
    · exact updateConnParams_number.trans same
    · exact same
  | false => exact same

section

variable (fate : Fate) (channel : DynChannel) (result : UInt8)

theorem establishRspCbk_number :
    (tables.establishRspCbk fate channel result).number = tables.number := by
  unfold establishRspCbk
  split
  · exact listed_number transChannelAdd_number
  · rfl

theorem releaseRspCbk_number :
    (tables.releaseRspCbk fate channel result).number = tables.number := by
  unfold releaseRspCbk
  dsimp only [note]
  split
  · exact listed_number transChannelDel_number
  · rfl

end

theorem answered_number (fate : Fate) (tables : Tables) (entry : DeviceLog) :
    (tables.answered fate entry).number =
      numberAnswered fate tables.number entry := by
  cases entry with
  | statusIndication channel added result =>
    simp only [answered, statusIndicationCbk, numberAnswered]
    split_ifs
    · simp [note]
    · simp [note]
    · rfl
  | establishRsp channel result =>
    exact establishRspCbk_number fate channel result
  | releaseRsp channel result => exact releaseRspCbk_number fate channel result
  | _ => rfl

theorem foldl_answered_number (fate : Fate) (tables : Tables)
    (entries : List DeviceLog) :
    (entries.foldl (answered fate) tables).number =
      entries.foldl (numberAnswered fate) tables.number := by
  induction entries generalizing tables with
  | nil => rfl
  | cons entry entries induction =>
    rw [foldl_cons, foldl_cons, induction, answered_number]

theorem logicLinkAdd_number (tables : Tables) (lcid : Nat) (allocated : Bool) :
    (tables.logicLinkAdd lcid allocated).number = tables.number := by
  unfold logicLinkAdd
  split
  · rfl
  · split <;> rfl

end Tables

namespace System

variable {system : System} {event : Event}

theorem step_refused (refused : system.forwarded event.input = none) :
    (system.step event).device = system.device ∧
      (system.step event).tables.number = system.tables.number := by
  simp [step, refused, report]

variable {deviceEvent : DeviceEvent} {channel : DynChannel}

theorem step_forwarded
    (forwarded : system.forwarded event.input = some deviceEvent) :
    (system.step event).device = system.device.step deviceEvent ∧
      (system.step event).tables.number =
        (system.handled event.fate deviceEvent).number := by
  rw [step, forwarded]
  dsimp only
  constructor
  · rfl
  · split <;> rfl

theorem handled_number (system : System) (fate : Fate)
    (deviceEvent : DeviceEvent) :
    (system.handled fate deviceEvent).number =
      ((answers system.device deviceEvent).filter loud).foldl
        (numberAnswered fate)
        (beforeDevice system.tables deviceEvent).number := by
  have after (tables : Tables) :
      (afterDevice tables fate deviceEvent).number = tables.number := by
    cases deviceEvent with
    | linkUp lcid allocated => exact tables.logicLinkAdd_number lcid _
    | _ => rfl
  rw [handled, after, foldl_answered_loud, Tables.foldl_answered_number]

/-- A step that sends no link down keeps the numbers exactly when its answers
are fair and its request was accepted. -/
theorem keeps_iff (system : System) (fate : Fate)
    (stays : ∀ lcid allocated, deviceEvent ≠ .linkDown lcid allocated) :
    system.Keeps fate deviceEvent ↔
      (∀ entry ∈ (answers system.device deviceEvent).filter loud,
        system.Fair fate entry) ∧
      ∀ channel, system.device.startsRelease deviceEvent = some channel →
        channel.state = .releasing →
        .releaseAccepted channel ∈
          (answers system.device deviceEvent).filter loud := by
  have quiet (entry : DeviceLog) (silent : loud entry = false) :
      system.Fair fate entry := by
    cases entry with
    | sent | moved | timedOut => trivial
    | _ => cases silent
  have fair : (∀ entry ∈ answers system.device deviceEvent,
      system.Fair fate entry) ↔
      ∀ entry ∈ (answers system.device deviceEvent).filter loud,
        system.Fair fate entry := by
    constructor
    · intro all entry member
      exact all entry (mem_filter.mp member).1
    · intro all entry member
      cases heard : loud entry with
      | true => exact all entry (mem_filter.mpr ⟨member, heard⟩)
      | false => exact quiet entry heard
  have accepted (channel : DynChannel) :
      .releaseAccepted channel ∈ answers system.device deviceEvent ↔
        .releaseAccepted channel ∈
          (answers system.device deviceEvent).filter loud := by
    simp [mem_filter, loud]
  cases deviceEvent with
  | linkDown lcid allocated => exact absurd rfl (stays lcid allocated)
  | _ => simp only [Keeps, fair, accepted]

theorem counts_iff (formed : system.device.Formed)
    (member : channel ∈ system.device.channels) :
    counts channel = true ↔ channel.state ≠ .releasing := by
  rcases formed.live channel member with ⟨state, _⟩ | state | state
  all_goals simp [counts, state]

section

variable (tallied : Tallied system.tables.number system.device.channels)
  (formed : system.device.Formed) (fate : Fate)
include tallied formed

theorem tallied_release
    (starts : system.device.startsRelease deviceEvent = some channel) :
    Tallied (((answers system.device deviceEvent).filter loud).foldl
          (numberAnswered fate) system.tables.number)
        (system.device.step deviceEvent).channels ↔
      (∀ entry ∈ (answers system.device deviceEvent).filter loud,
        system.Fair fate entry) ∧
      ∀ channel, system.device.startsRelease deviceEvent = some channel →
        channel.state = .releasing →
        .releaseAccepted channel ∈
          (answers system.device deviceEvent).filter loud := by
  have member := startsRelease_mem starts
  have counted := counts_iff formed member
  rcases Moved.of_startsRelease starts with
    ⟨heard, channels⟩ | ⟨heard, channels⟩
  · have shift := shift_modify formed.distinct member
      (fun node => { node with state := .releasing }) rfl
    rw [heard, channels]
    show Tallied (system.tables.number.decrease channel.lcid) _ ↔ _
    rw [tallied.decrease_iff shift, counted, forall_mem_singleton,
      ← imp_iff_not_or]
    constructor
    · intro fair
      refine ⟨fair, ?_⟩
      intro other again _
      rw [starts] at again
      cases again
      exact mem_singleton_self _
    · exact fun keeps => keeps.1
  · have shift := shift_modify formed.distinct member
      (fun node => { node with state := .activated }) rfl
    rw [heard, channels]
    show Tallied system.tables.number _ ↔ _
    rw [tallied.same_iff shift,
      show counts { channel with state := .activated } = true from rfl,
      counted]
    simp [starts]

/-- The numbers after an event that sends no link down are those of the
channels exactly when its answers keep them. -/
theorem tallied_answers
    (stays : ∀ lcid allocated, deviceEvent ≠ .linkDown lcid allocated) :
    Tallied (((answers system.device deviceEvent).filter loud).foldl
          (numberAnswered fate) system.tables.number)
        (system.device.step deviceEvent).channels ↔
      system.Keeps fate deviceEvent := by
  rw [keeps_iff system fate stays]
  cases starts : system.device.startsRelease deviceEvent with
  | some channel =>
    rw [← starts]
    exact tallied_release tallied formed fate starts
  | none =>
  have moved := Moved.of_step formed deviceEvent
  have distinct := formed.distinct
  generalize (answers system.device deviceEvent).filter loud = entries
    at moved ⊢
  generalize (system.device.step deviceEvent).channels = channels at moved ⊢
  simp only [reduceCtorEq, false_imp_iff, implies_true, and_true]
  cases moved with
  | nothing => simpa using tallied
  | @requested _ channel serial state free =>
    have counted : counts channel = true := by simp [counts, state]
    have shift := shift_append system.device.channels channel
    rw [counted] at shift
    simpa [numberAnswered, Fair] using
      @Tallied.increase_iff _ _ _ _ fate.numNode tallied shift
  | @established _ channel dstTcid establishes =>
    obtain ⟨member, state, _⟩ := establishes_spec establishes
    have counted : counts channel = true := by simp [counts, state]
    have shift := shift_modify distinct member (fun node =>
      { node with remoteTcid := dstTcid, state := .activated }) rfl
    have same := (tallied.same_iff shift).mpr counted
    simpa [numberAnswered, Fair] using same
  | @refused _ channel result member activating failed =>
    have counted : counts channel = true := by simp [counts, activating]
    have shift := shift_remove distinct member
    simpa [numberAnswered, Fair, counted, failed] using tallied.same_iff shift
  | @releasing _ channel begins | @unreleased _ channel begins =>
    rw [starts] at begins
    cases begins
  | @released _ channel result member =>
    have counted := counts_iff formed member
    have shift := shift_remove distinct member
    have same := tallied.same_iff shift
    rw [Bool.eq_false_iff, Ne, counted, not_not] at same
    simpa [numberAnswered, Fair] using same
  | @accepted _ channel unicast serial state free =>
    have counted : counts channel = true := by simp [counts, state]
    have shift := shift_append system.device.channels channel
    rw [counted] at shift
    simpa [numberAnswered, Fair] using
      @Tallied.increase_iff _ _ _ _ fate.numNode tallied shift
  | @disconnected _ channel member =>
    have counted := counts_iff formed member
    have shift := shift_remove distinct member
    have less := tallied.decrease_iff shift
    rw [counted] at less
    rw [forall_mem_singleton]
    show Tallied (system.tables.number.decrease channel.lcid) _ ↔
      (channel.state = .releasing →
        liveOn channel.lcid system.device.channels = 0)
    rw [less, imp_iff_not_or]
  | linkDown => exact absurd rfl (stays _ _)

end

theorem foldl_disconnectReport {number : ChannelNum} {lcid : Nat}
    (fate : Fate) (sound : number.Sound) (zero : number.numberOf lcid = 0)
    (channels : List DynChannel)
    (here : ∀ channel ∈ channels, channel.lcid = lcid) :
    (channels.map Device.disconnectReport).foldl (numberAnswered fate)
      number = number := by
  induction channels with
  | nil => rfl
  | cons channel channels induction =>
    have named := here channel mem_cons_self
    have same : numberAnswered fate number
        (Device.disconnectReport channel) = number := by
      unfold Device.disconnectReport
      split
      · rfl
      · show number.decrease channel.lcid = number
        rw [named]
        exact sound.decrease_zero zero
    rw [map_cons, foldl_cons, same]
    exact induction fun other member =>
      here other (.tail _ member)

/-- A link that goes down keeps the numbers exactly when its channels are
freed, or none of them counts. -/
theorem tallied_linkDown (tallied :
      Tallied system.tables.number system.device.channels)
    (formed : system.device.Formed) (fate : Fate) (lcid : Nat)
    (allocated : Bool) :
    Tallied (system.handled fate (.linkDown lcid allocated)).number
        (system.device.step (.linkDown lcid allocated)).channels ↔
      system.Keeps fate (.linkDown lcid allocated) := by
  have cleared := tallied.clear lcid
  have none : (system.tables.number.clear lcid).numberOf lcid = 0 := by
    rw [cleared.perLink, liveOn_filter, if_pos rfl]
  have number : (system.handled fate (.linkDown lcid allocated)).number =
      system.tables.number.clear lcid := by
    rw [handled_number, Moved.linkDown_heard formed]
    show List.foldl _ (system.tables.number.clear lcid) _ = _
    split
    · apply foldl_disconnectReport fate cleared.sound none
      intro channel member
      simpa using (mem_filter.mp member).2
    · rfl
  rw [number]
  show Tallied _ (system.device.linkDown lcid allocated).channels ↔
    (allocated = true ∨ liveOn lcid system.device.channels = 0)
  rw [linkDown_eq formed]
  cases allocated with
  | true => simpa using cleared
  | false =>
    show Tallied _ system.device.channels ↔ _
    constructor
    · intro again
      right
      rw [← again.perLink, none]
    · rintro (impossible | zero)
      · cases impossible
      · have whole := @live_split system.device.channels lcid
        refine ⟨cleared.sound, ?_, by rw [cleared.total]; omega⟩
        intro other
        rw [cleared.perLink, liveOn_filter]
        split
        case isTrue same => rw [same, zero]
        case isFalse => rfl

structure Sound (system : System) : Prop where
  counted : system.Counted
  formed : system.device.Formed

theorem Counted.of_tallied
    (tallied : Tallied system.tables.number system.device.channels) :
    system.Counted where
  tallied := tallied
  refused := by
    intro exceeds
    rw [← tallied.total]
    exact UInt32.le_iff_toNat_le.mp (of_decide_eq_true exceeds)

theorem sound_init (identifier : UInt8) : (init identifier).Sound where
  counted := .of_tallied ⟨ChannelNum.sound_empty, fun _ => rfl, rfl⟩
  formed := formed_init identifier

theorem counted_iff (sound : system.Sound) (event : Event) :
    (system.step event).Counted ↔ system.Clear event := by
  have tallied := sound.counted.tallied
  cases forwarded : system.forwarded event.input with
  | none =>
    obtain ⟨device, number⟩ := step_refused forwarded
    constructor
    · intro _ deviceEvent comes
      rw [forwarded] at comes
      cases comes
    · intro _
      apply Counted.of_tallied
      rw [device, number]
      exact tallied
  | some deviceEvent =>
    obtain ⟨device, number⟩ := step_forwarded forwarded
    have clear : system.Clear event ↔ system.Keeps event.fate deviceEvent := by
      simp [Clear, forwarded]
    have next : (system.step event).Counted ↔
        Tallied (system.handled event.fate deviceEvent).number
          (system.device.step deviceEvent).channels := by
      rw [← number, ← device]
      exact ⟨Counted.tallied, .of_tallied⟩
    rw [clear, next]
    cases deviceEvent with
    | linkDown lcid allocated =>
      exact tallied_linkDown tallied sound.formed event.fate lcid allocated
    | _ =>
      rw [handled_number]
      exact tallied_answers tallied sound.formed event.fate (by simp)

theorem Sound.step (sound : system.Sound) (event : Event)
    (clear : system.Clear event) : (system.step event).Sound where
  counted := (counted_iff sound event).mpr clear
  formed := by
    cases forwarded : system.forwarded event.input with
    | none =>
      rw [(step_refused forwarded).1]
      exact sound.formed
    | some deviceEvent =>
      rw [(step_forwarded forwarded).1]
      exact sound.formed.step deviceEvent

/-- In a run the numbers are those of the channels that are live or being
established, exactly when no establishment fails, every release is one of a
channel that counts, and is answered only once it does not. -/
theorem counted_iff_clear (identifier : UInt8) (events : List Event) :
    Always step Counted (init identifier) events ↔
      Meets step Clear (init identifier) events :=
  always_iff_meets (fun _ sound => sound.counted)
    (fun _ event sound clear => sound.step event clear)
    (fun _ event sound counted => (counted_iff sound event).mp counted)
    (sound_init identifier)

def refusedChannel : List Event :=
  [{ input := .linkUp 1 true },
    { input := .create ⟨1, 5, 6, 0, 0, 0⟩ (some ⟨0, 0⟩) true
        ⟨true, true, true⟩ },
    { input := .recv 1 (.connectRsp 1 128 0 1)
        ⟨true, true, true, ⟨true, true, true⟩⟩ }]

theorem counted_refusedChannel :
    ¬ Always step Counted (init 0) refusedChannel := by
  intro always
  have total := always.at_end.tallied.total
  revert total
  decide

end System

end NearLink.Qosm
