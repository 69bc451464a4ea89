import NearLink.Dtap.ChannelRun
import NearLink.Dtap.SendStep

/-!
# The order of sent messages

A log follows every message from its `DTAP_DataSend` call to the place it ends
in: queued as frames, held in the cache, or discarded.  Messages are known by
the number of their call, so two equal messages stay apart.  The log only
looks at the channel before and after an event.
-/

namespace NearLink.Dtap

open Sdf Nat Channel
open List hiding getElem?_eq_some_iff

/-- One call of `DTAP_DataSend`. -/
structure Call where
  message : Message
  errno : Errno
  cacheEmpty : Bool
  deriving DecidableEq

def Call.Answered (call : Call) : Prop :=
  call.errno = .success ∨ call.errno = .transReliableTxWindowFull

instance (call : Call) : Decidable call.Answered :=
  inferInstanceAs (Decidable (_ ∨ _))

structure SendLog where
  channel : Channel
  calls : List Call := []
  /-- calls whose message has been cut into `txList`, in that order -/
  framed : List Nat := []
  /-- the call whose message is in `cacheBuff` -/
  cached : Option Nat := none
  /-- calls whose message left the cache without being framed, or could not
  be copied into it -/
  discarded : List Nat := []

namespace SendLog

/-- Follow a call of `DTAP_DataSend`. -/
def noteCall (log : SendLog) (after : Channel) (call : Call) : SendLog :=
  let index := log.calls.length
  let noted := { log with channel := after, calls := log.calls ++ [call] }
  if log.channel.framed.length < after.framed.length then
    { noted with framed := log.framed ++ [index] }
  else if call.Answered ∧ call.cacheEmpty = true then
    if after.cacheBuff.isSome then { noted with cached := some index }
    else { noted with discarded := log.discarded ++ [index] }
  else noted

def noteOther (log : SendLog) (after : Channel) : SendLog :=
  let noted := { log with channel := after }
  match log.cached with
  | none => noted
  | some index =>
    if log.channel.framed.length < after.framed.length then
      { noted with framed := log.framed ++ [index], cached := none }
    else if after.cacheBuff.isNone then
      { noted with discarded := log.discarded ++ [index], cached := none }
    else noted

def step (env : Env) (registry : Channel.Registry) (log : SendLog) :
    Channel.Event → SendLog
  | .dataSend pi data =>
    log.noteCall (log.channel.dataSend env pi data).2
      { message := { pi := pi, data := data }
        errno := (log.channel.dataSend env pi data).1
        cacheEmpty := log.channel.cacheBuff.isNone }
  | event => log.noteOther (log.channel.step env registry event)

def places (log : SendLog) (index : Nat) : Nat :=
  log.framed.count index + (if log.cached = some index then 1 else 0) +
    log.discarded.count index

def messageAt (log : SendLog) (index : Nat) : Option Message :=
  log.calls[index]?.map Call.message

def foundEmpty (log : SendLog) (index : Nat) : Bool :=
  (log.calls[index]?.map Call.cacheEmpty).getD false

end SendLog

def TxSide.messages (side : TxSide) : List Message × Option Message :=
  (side.framed,
    side.cacheBuff.map fun data => { pi := side.cachePi, data := data })

namespace Channel

variable {env : Env} {registry : Registry} {channel result : Channel}

def messages (channel : Channel) : List Message × Option Message :=
  channel.txSide.messages

theorem messages_of_sender {other : Channel}
    (same : other.sender = channel.sender) :
    other.messages = channel.messages :=
  congrArg (·.2.messages) same

/-- The message does not fit the window, and the copy for the cache cannot be
allocated. -/
def CopyFails (env : Env) (channel : Channel) (data : Bytes) : Prop :=
  channel.cacheBuff = none ∧ env.alloc channel.host.tick = false ∧
    ∃ mps, channel.payloadRoom = some mps ∧ channel.txWindow.size <
      channel.txWindow.txList.length + getFragmentFramesNum data.length mps

/-- The window has room for the cached message, and sending it fails. -/
def FlushFails (env : Env) (channel : Channel) : Prop :=
  ∃ cacheBuff, channel.cacheBuff = some cacheBuff ∧
    channel.txWindow.txList.length + channel.cachedFrameCnt cacheBuff <
      channel.txWindow.size ∧
    ((channel.setTxWindowFull false).sendEnhanceFrame env channel.cachePi
      cacheBuff).1 ≠ .success

/-- What happened ends with a flush of the cache that fails. -/
def LosesFlush (env : Env) (old new : Channel) : Prop :=
  ∃ (flushing : Channel) (result : Nat), flushing.messages = old.messages ∧
    new = flushing.transChannelStatusChange env result ∧ flushing.FlushFails env

inductive SendEffect (env : Env) (old new : Channel) (message : Message)
    (errno : Errno) : Prop where
  | framed (answer : errno = .success ∨ errno = .transReliableTxWindowFull)
      (effect : new.messages = (old.framed ++ [message], old.messages.2))
  | cached (answer : errno = .transReliableTxWindowFull)
      (empty : old.cacheBuff = none)
      (effect : new.messages = (old.framed, some message) ∨
        new.messages = (old.framed, none) ∧ CopyFails env old message.data)
  | kept (reason : ¬(errno = .success ∨
        errno = .transReliableTxWindowFull) ∨ old.cacheBuff ≠ none)
      (failed : errno ≠ .success) (effect : new.messages = old.messages)

theorem sendOutcome_effect {pi : Nat} {data : Bytes} {errno : Errno}
    (outcome : SendOutcome env channel pi data errno result) :
    SendEffect env channel result { pi := pi, data := data } errno := by
  cases outcome with
  | refused reTxSeq isTxWindowFull txList failed touched sender emits =>
    refine .kept (.inl ?_) failed.1 ?_
    · rintro (success | full)
      · exact failed.1 success
      · exact failed.2 full
    · exact congrArg (·.2.messages) sender
  | cached mps room tooLong sender out =>
    have effect := messages_of_sender sender
    by_cases empty : channel.cacheBuff.isNone = true
    · have free : channel.cacheBuff = none := by simpa using empty
      refine .cached rfl free ?_
      rw [effect]
      unfold cacheMessage
      rw [if_pos empty]
      by_cases allocated : env.alloc channel.host.tick = true
      · refine .inl ?_
        rw [if_pos allocated]
        rfl
      · refine .inr ⟨?_, free, by simpa using allocated, mps, room, tooLong⟩
        rw [if_neg allocated]
        rfl
    · refine .kept (.inr (by simpa using empty)) (by simp) ?_
      rw [effect]
      unfold cacheMessage
      rw [if_neg empty]
      rfl
  | framed mps reTxSeq sendPollingCounter isTxWindowFull txList packed added
      room fits packing touched addedTouched sender emits =>
      refine .framed ?_ ?_
      · cases isTxWindowFull with
        | true => exact .inr rfl
        | false => exact .inl rfl
      · exact congrArg (·.2.messages) sender

/-- Any other event leaves the messages alone, or takes the cached one out of
the cache and frames it or not. -/
inductive FlushEffect (env : Env) (old new : Channel) : Prop where
  | kept (effect : new.messages = old.messages)
  | flushed (message : Message) (held : old.messages.2 = some message)
      (effect : new.messages = (old.framed ++ [message], none))
  | dropped (message : Message) (held : old.messages.2 = some message)
      (effect : new.messages = (old.framed, none))
      (failed : LosesFlush env old new)

theorem transChannelStatusChange_effect (result : Nat) :
    FlushEffect env channel (channel.transChannelStatusChange env result) := by
  have outcome := @transChannelStatusChange_outcome env channel result
  revert outcome
  generalize same : channel.transChannelStatusChange env result = after
  intro outcome
  cases outcome with
  | kept isTxWindowFull sender out =>
    exact .kept ((messages_of_sender sender).trans rfl)
  | @flushed sent errno cacheBuff held roomy answered outcome sender receiver
      out =>
    let message : Message := { pi := channel.cachePi, data := cacheBuff }
    have cached : channel.messages.2 = some message := by
      unfold messages TxSide.messages txSide
      rw [held]
      rfl
    have cleared (framed : List Message) (equality : sent.messages.1 = framed) :
        after.messages = (framed, none) := by
      rw [messages_of_sender sender, ← equality]
      rfl
    cases sendOutcome_effect outcome with
    | framed answer effect =>
      exact .flushed message cached (cleared _ (congrArg Prod.fst effect))
    | cached answer empty effect =>
      rw [held] at empty
      cases empty
    | kept reason failed effect =>
      exact .dropped message cached (cleared _ (congrArg Prod.fst effect))
        ⟨channel, result, rfl, same.symm, cacheBuff, held, roomy,
          answered ▸ failed⟩

theorem FlushEffect.of_start {middle : Channel}
    (start : middle.messages = channel.messages)
    (effect : FlushEffect env middle result) :
    FlushEffect env channel result := by
  have framed : middle.framed = channel.framed := congrArg Prod.fst start
  cases effect with
  | kept effect => exact .kept (effect.trans start)
  | flushed message held effect =>
    exact .flushed message (start ▸ held) (framed ▸ effect)
  | dropped message held effect failed =>
    obtain ⟨flushing, status, begun, ended⟩ := failed
    exact .dropped message (start ▸ held) (framed ▸ effect)
      ⟨flushing, status, begun.trans start, ended⟩

theorem recvEnhanceFrame_effect (recvCb : Option RecvCb) (frame : Frame) :
    FlushEffect env channel (channel.recvEnhanceFrame env recvCb frame).2 := by
  obtain ⟨reTxSeq, txList, nackSender, _, _⟩ :=
    @recvNackFrame_spec env channel frame
  have nacked : (channel.recvNackFrame env frame).2.messages =
      channel.messages :=
    congrArg (·.2.messages) nackSender
  obtain ⟨_, _, txWindow, slideSender, _, _⟩ :=
    @slideTxWindow_spec env (channel.recvNackFrame env frame).2 frame
  have slid : ((channel.recvNackFrame env frame).2.slideTxWindow env
      frame).messages = channel.messages :=
    (congrArg (·.2.messages) slideSender).trans nacked
  unfold recvEnhanceFrame
  extract_lets nackedResult slidResult
  split_ifs
  · exact .kept nacked
  · exact (transChannelStatusChange_effect 0).of_start slid
  · exact .kept slid
  · have received := messages_of_sender (@recvDataFrame_sender env
      (slidResult.skip 2) recvCb frame)
    exact (transChannelStatusChange_effect 0).of_start (received.trans slid)

theorem step_flushEffect {event : Event}
    (other : ∀ pi data, event ≠ .dataSend pi data) :
    FlushEffect env channel (channel.step env registry event) := by
  cases event with
  | dataSend pi data => exact absurd rfl (other pi data)
  | recvFrame received => exact recvEnhanceFrame_effect _ _
  | setStatus result =>
    exact .kept (messages_of_sender
      (setTransChannelStatus_sender registry.byTcid result))
  | statusChange result => exact transChannelStatusChange_effect result
  | rspTimer =>
    exact .kept (messages_of_sender (sender_of_core rspTimerExpireProc_core))
  | reorderTimer => exact .kept (messages_of_sender reorderTimerExpireProc_sender)
  | retransTimer =>
    obtain ⟨reTxSeq, txList, sender, _, _⟩ :=
      @retransTimerExpireProc_spec env channel
    exact .kept (congrArg (·.2.messages) sender)

end Channel

namespace SendLog

structure Orderly (log : SendLog) : Prop where
  framed_messages :
    log.framed.map log.messageAt = log.channel.framed.map some
  cached_message : log.channel.messages.2 = log.cached.bind log.messageAt
  bounded : ∀ index, 0 < log.places index → index < log.calls.length
  once : ∀ index, log.places index ≤ 1
  accounted : ∀ index call, log.calls[index]? = some call →
    call.Answered → call.cacheEmpty = true → log.places index = 1
  inOrder : (log.framed.filter log.foundEmpty).Pairwise (· < ·)
  cached_last : ∀ last, log.cached = some last →
    ∀ index, log.foundEmpty index = true → index ≤ last

variable {log : SendLog} {index : Nat} {after : Channel} {call : Call}

theorem places_framed (member : index ∈ log.framed) :
    0 < log.places index := by
  have positive := count_pos_iff.mpr member
  unfold places
  omega

theorem places_cached (held : log.cached = some index) :
    0 < log.places index := by
  unfold places
  rw [if_pos held]
  omega

theorem foundEmpty_lt (found : log.foundEmpty index = true) :
    index < log.calls.length := by
  unfold foundEmpty at found
  by_contra beyond
  rw [getElem?_eq_none (by omega)] at found
  cases found

theorem Orderly.notOvertaken (orderly : Orderly log) {last : Nat}
    (held : log.cached = some last) (framed : index ∈ log.framed)
    (found : log.foundEmpty index = true) : index < last := by
  have bound := orderly.cached_last last held index found
  refine lt_of_le_of_ne bound ?_
  rintro rfl
  have positive := count_pos_iff.mpr framed
  have once := orderly.once index
  unfold places at once
  rw [if_pos held] at once
  omega

theorem Orderly.cached_isNone (orderly : Orderly log) :
    log.channel.cacheBuff.isNone = log.cached.isNone := by
  have same := orderly.cached_message
  unfold messages TxSide.messages txSide at same
  cases held : log.cached with
  | none =>
    rw [held] at same
    cases buff : log.channel.cacheBuff with
    | none => rfl
    | some data =>
      rw [buff] at same
      cases same
  | some last =>
    have inCalls := orderly.bounded last (places_cached held)
    rw [held, Option.bind_some, messageAt, getElem?_eq_getElem inCalls] at same
    cases buff : log.channel.cacheBuff with
    | none =>
      rw [buff] at same
      cases same
    | some data => rfl

/-! ### Logging a call -/

def extend (log : SendLog) (after : Channel) (call : Call) : SendLog :=
  { log with channel := after, calls := log.calls ++ [call] }

theorem extend_messageAt (old : index < log.calls.length) :
    (log.extend after call).messageAt index = log.messageAt index := by
  unfold messageAt extend
  rw [getElem?_append_left old]

theorem extend_messageAt_last :
    (log.extend after call).messageAt log.calls.length = some call.message := by
  unfold messageAt extend
  rw [getElem?_concat_length]
  rfl

theorem extend_foundEmpty (old : index < log.calls.length) :
    (log.extend after call).foundEmpty index = log.foundEmpty index := by
  unfold foundEmpty extend
  rw [getElem?_append_left old]

theorem extend_foundEmpty_last :
    (log.extend after call).foundEmpty log.calls.length =
      call.cacheEmpty := by
  unfold foundEmpty extend
  rw [getElem?_concat_length]
  rfl

section

variable (orderly : Orderly log)
include orderly

theorem Orderly.framed_lt (member : index ∈ log.framed) :
    index < log.calls.length :=
  orderly.bounded index (places_framed member)

theorem Orderly.framed_extend (after : Channel) (call : Call) :
    log.framed.map (log.extend after call).messageAt =
        log.framed.map log.messageAt ∧
      log.framed.filter (log.extend after call).foundEmpty =
        log.framed.filter log.foundEmpty := by
  constructor
  · apply map_congr_left
    intro index member
    exact extend_messageAt (orderly.framed_lt member)
  · apply filter_congr
    intro index member
    exact extend_foundEmpty (orderly.framed_lt member)

theorem Orderly.cached_extend (after : Channel) (call : Call) :
    log.cached.bind (log.extend after call).messageAt =
      log.cached.bind log.messageAt := by
  cases held : log.cached with
  | none => rfl
  | some last =>
    exact extend_messageAt (orderly.bounded last (places_cached held))

theorem Orderly.places_new : log.places log.calls.length = 0 := by
  by_contra placed
  exact lt_irrefl _ (orderly.bounded _ (pos_of_ne_zero placed))

theorem Orderly.of_extend {new : SendLog} {call : Call}
    (calls : new.calls = log.calls ++ [call]) (framed_messages :
      new.framed.map new.messageAt = new.channel.framed.map some)
    (cached_message : new.channel.messages.2 = new.cached.bind new.messageAt)
    (places_old : ∀ index, index ≠ log.calls.length →
      new.places index = log.places index)
    (places_once : new.places log.calls.length ≤ 1)
    (places_placed : call.Answered → call.cacheEmpty = true →
      new.places log.calls.length = 1)
    (inOrder : (new.framed.filter new.foundEmpty).Pairwise (· < ·))
    (cached_last : ∀ last, new.cached = some last →
      ∀ index, new.foundEmpty index = true → index ≤ last) : Orderly new := by
  have length : new.calls.length = log.calls.length + 1 := by
    rw [calls, length_append]
    rfl
  refine ⟨framed_messages, cached_message, ?_, ?_, ?_, inOrder, cached_last⟩
  · intro index placed
    by_cases here : index = log.calls.length
    · omega
    · rw [places_old index here] at placed
      have old := orderly.bounded index placed
      omega
  · intro index
    by_cases here : index = log.calls.length
    · rw [here]
      exact places_once
    · rw [places_old index here]
      exact orderly.once index
  · intro index other found answered empty
    by_cases here : index = log.calls.length
    · rw [here, calls, getElem?_concat_length] at found
      cases found
      rw [here]
      exact places_placed answered empty
    · have bound : index < log.calls.length := by
        have inside := (getElem?_eq_some_iff.mp found).1
        omega
      rw [calls, getElem?_append_left bound] at found
      rw [places_old index here]
      exact orderly.accounted index other found answered empty

end

theorem count_concat_of_ne {list : List Nat} {other : Nat}
    (different : index ≠ other) :
    (list ++ [other]).count index = list.count index := by
  rw [count_append, count_singleton]
  have unequal : (other == index) = false := by
    simpa using fun same : other = index => different same.symm
  rw [unequal]
  rfl

theorem count_concat_self (list : List Nat) (index : Nat) :
    (list ++ [index]).count index = list.count index + 1 := by
  rw [count_append, count_singleton, beq_self_eq_true, if_pos rfl]

section Call

variable {after : Channel} {call : Call} (orderly : Orderly log)
include orderly

theorem Orderly.cached_none
    (empty : call.cacheEmpty = log.channel.cacheBuff.isNone)
    (found : call.cacheEmpty = true) : log.cached = none := by
  rw [empty, orderly.cached_isNone] at found
  simpa using found

theorem Orderly.extend_last (after : Channel)
    (empty : call.cacheEmpty = log.channel.cacheBuff.isNone) {last index : Nat}
    (held : log.cached = some last)
    (found : (log.extend after call).foundEmpty index = true) :
    index ≤ last := by
  have bound := foundEmpty_lt found
  have length : (log.extend after call).calls.length =
      log.calls.length + 1 := by simp [extend]
  by_cases here : index = log.calls.length
  · rw [here, extend_foundEmpty_last] at found
    rw [orderly.cached_none empty found] at held
    cases held
  · have old : index < log.calls.length := by omega
    rw [extend_foundEmpty old] at found
    exact orderly.cached_last last held index found

theorem Orderly.frameCall
    (empty : call.cacheEmpty = log.channel.cacheBuff.isNone)
    (effect : after.messages =
      (log.channel.framed ++ [call.message], log.channel.messages.2)) :
    Orderly { log.extend after call with
      framed := log.framed ++ [log.calls.length] } := by
  have unplaced := orderly.places_new
  obtain ⟨framedMessages, framedEmpty⟩ := orderly.framed_extend after call
  have framed : after.framed = log.channel.framed ++ [call.message] :=
    congrArg Prod.fst effect
  have placed : log.framed.count log.calls.length + 1 +
      (if log.cached = some log.calls.length then 1 else 0) +
        log.discarded.count log.calls.length = 1 := by
    unfold places at unplaced
    omega
  have places_self : SendLog.places { log.extend after call with
      framed := log.framed ++ [log.calls.length] } log.calls.length = 1 := by
    unfold places
    rw [count_concat_self]
    exact placed
  refine orderly.of_extend rfl ?_ ?_ ?_ (le_of_eq places_self)
    (fun _ _ => places_self) ?_ ?_
  · change (log.framed ++ [log.calls.length]).map
      (log.extend after call).messageAt = after.framed.map some
    rw [map_append, framedMessages, orderly.framed_messages, framed, map_append,
      map_singleton, extend_messageAt_last, map_singleton]
  · change after.messages.2 = log.cached.bind (log.extend after call).messageAt
    rw [orderly.cached_extend, effect]
    exact orderly.cached_message
  · intro index different
    unfold places
    rw [count_concat_of_ne different]
    rfl
  · change ((log.framed ++ [log.calls.length]).filter
      (log.extend after call).foundEmpty).Pairwise (· < ·)
    rw [filter_append, framedEmpty, pairwise_append]
    refine ⟨orderly.inOrder, ?_, ?_⟩
    · exact (pairwise_singleton _ _).sublist filter_sublist
    · intro earlier inFramed later inLast
      have member := (mem_filter.mp inFramed).1
      rw [mem_singleton.mp (mem_filter.mp inLast).1]
      exact orderly.framed_lt member
  · exact fun last held index => orderly.extend_last after empty held

theorem Orderly.cacheCall (none : log.cached = none)
    (effect : after.messages = (log.channel.framed, some call.message)) :
    Orderly { log.extend after call with
      cached := some log.calls.length } := by
  have unplaced := orderly.places_new
  obtain ⟨framedMessages, framedEmpty⟩ := orderly.framed_extend after call
  have places_self : SendLog.places { log.extend after call with
      cached := some log.calls.length } log.calls.length = 1 := by
    unfold places at unplaced ⊢
    rw [if_pos rfl]
    change log.framed.count log.calls.length + 1 +
      log.discarded.count log.calls.length = 1
    omega
  refine orderly.of_extend rfl ?_ ?_ ?_ (le_of_eq places_self)
    (fun _ _ => places_self) ?_ ?_
  · change log.framed.map (log.extend after call).messageAt =
      after.framed.map some
    rw [framedMessages, orderly.framed_messages,
      show after.framed = log.channel.framed from congrArg Prod.fst effect]
  · change after.messages.2 = (log.extend after call).messageAt log.calls.length
    rw [extend_messageAt_last, effect]
  · intro index different
    unfold places
    rw [none, if_neg (by simpa using different.symm), if_neg (by simp)]
    rfl
  · change (log.framed.filter
      (log.extend after call).foundEmpty).Pairwise (· < ·)
    rw [framedEmpty]
    exact orderly.inOrder
  · intro last held index found
    cases held
    have bound := foundEmpty_lt found
    have length : (log.extend after call).calls.length =
        log.calls.length + 1 := by simp [extend]
    change index < (log.extend after call).calls.length at bound
    omega

section

variable (empty : call.cacheEmpty = log.channel.cacheBuff.isNone)
include empty

theorem Orderly.dropCall (effect : after.messages = log.channel.messages)
    {discarded : List Nat}
    (noted : discarded = log.discarded ++ [log.calls.length] ∨
      discarded = log.discarded ∧ ¬(call.Answered ∧ call.cacheEmpty = true)) :
    Orderly { log.extend after call with discarded := discarded } := by
  have unplaced := orderly.places_new
  obtain ⟨framedMessages, framedEmpty⟩ := orderly.framed_extend after call
  refine orderly.of_extend rfl ?_ ?_ ?_ ?_ ?_ ?_ ?_
  · change log.framed.map (log.extend after call).messageAt =
      after.framed.map some
    rw [framedMessages, orderly.framed_messages,
      show after.framed = log.channel.framed from congrArg Prod.fst effect]
  · change after.messages.2 = log.cached.bind (log.extend after call).messageAt
    rw [orderly.cached_extend, effect]
    exact orderly.cached_message
  · intro index different
    unfold places
    rcases noted with rfl | ⟨rfl, _⟩
    · rw [count_concat_of_ne different]
      rfl
    · rfl
  · unfold places at unplaced ⊢
    rcases noted with rfl | ⟨rfl, _⟩
    · rw [count_concat_self]
      change log.framed.count log.calls.length +
        (if log.cached = some log.calls.length then 1 else 0) +
          (log.discarded.count log.calls.length + 1) ≤ 1
      omega
    · change log.framed.count log.calls.length +
        (if log.cached = some log.calls.length then 1 else 0) +
          log.discarded.count log.calls.length ≤ 1
      omega
  · intro answered found
    rcases noted with rfl | ⟨_, unanswered⟩
    · unfold places at unplaced ⊢
      rw [count_concat_self]
      change log.framed.count log.calls.length +
        (if log.cached = some log.calls.length then 1 else 0) +
          (log.discarded.count log.calls.length + 1) = 1
      omega
    · exact absurd ⟨answered, found⟩ unanswered
  · change (log.framed.filter
      (log.extend after call).foundEmpty).Pairwise (· < ·)
    rw [framedEmpty]
    exact orderly.inOrder
  · exact fun last held index => orderly.extend_last after empty held

theorem Orderly.noteCall
    (effect : Channel.SendEffect env log.channel after call.message
      call.errno) :
    Orderly (log.noteCall after call) ∧
      ∀ index ∈ (log.noteCall after call).discarded, index ∈ log.discarded ∨
        index = log.calls.length ∧
          log.channel.CopyFails env call.message.data := by
  unfold SendLog.noteCall
  extract_lets position noted
  cases effect with
  | framed answer effect =>
    have framed : after.framed = log.channel.framed ++ [call.message] :=
      congrArg Prod.fst effect
    rw [if_pos (by rw [framed, length_append]; exact lt_succ_self _)]
    exact ⟨orderly.frameCall empty effect, fun _ => .inl⟩
  | cached answer none effect =>
    have framed : after.framed = log.channel.framed := by
      rcases effect with effect | ⟨effect, _⟩
      · exact congrArg Prod.fst effect
      · exact congrArg Prod.fst effect
    have found : call.cacheEmpty = true := by
      rw [empty, none]
      rfl
    rw [if_neg (by rw [framed]; exact lt_irrefl _),
      if_pos ⟨.inr answer, found⟩]
    rcases effect with effect | ⟨effect, failed⟩
    · have held : after.cacheBuff.isSome = true := by
        have second := congrArg (·.2.isSome) effect
        simpa [messages, TxSide.messages, txSide] using second
      rw [if_pos held]
      exact ⟨orderly.cacheCall (orderly.cached_none empty found) effect,
        fun _ => .inl⟩
    · have dropped : ¬after.cacheBuff.isSome = true := by
        have second := congrArg (·.2.isSome) effect
        simpa [messages, TxSide.messages, txSide] using second
      rw [if_neg dropped]
      constructor
      · refine orderly.dropCall empty (effect.trans ?_) (.inl rfl)
        unfold messages TxSide.messages txSide
        rw [none]
        rfl
      · intro index member
        refine (mem_append.mp member).imp_right fun last => ?_
        exact ⟨mem_singleton.mp last, failed⟩
  | kept reason failed effect =>
    have framed : after.framed = log.channel.framed :=
      congrArg Prod.fst effect
    have unplaced : ¬(call.Answered ∧ call.cacheEmpty = true) := by
      rintro ⟨answered, found⟩
      rcases reason with refused | taken
      · exact refused answered
      · rw [empty] at found
        exact taken (by simpa using found)
    rw [if_neg (by rw [framed]; exact lt_irrefl _), if_neg unplaced]
    exact ⟨orderly.dropCall empty effect (.inr ⟨rfl, unplaced⟩),
      fun _ => .inl⟩

end

end Call

/-! ### Logging other events -/

/-- What a step discards it has lost: the copy of the message for the cache
could not be allocated, or sending the cached message failed although the
window had room for it. -/
def DiscardsLost (env : Env) (registry : Channel.Registry) (log : SendLog)
    (event : Channel.Event) : Prop :=
  ∀ index ∈ (log.step env registry event).discarded, index ∈ log.discarded ∨
    (index = log.calls.length ∧ ∃ pi data, event = .dataSend pi data ∧
      log.channel.CopyFails env data) ∨
    (log.cached = some index ∧ LosesFlush env log.channel
      (log.channel.step env registry event))

section

variable (orderly : Orderly log) {after : Channel}
include orderly

theorem Orderly.flush {last : Nat} {message : Message}
    {framed discarded : List Nat} (held : log.cached = some last)
    (cached : log.channel.messages.2 = some message) (moved :
      (framed = log.framed ++ [last] ∧ discarded = log.discarded ∧
        after.messages = (log.channel.framed ++ [message], none)) ∨
      (framed = log.framed ∧ discarded = log.discarded ++ [last] ∧
        after.messages = (log.channel.framed, none))) : Orderly { log with
      channel := after
      framed := framed
      cached := none
      discarded := discarded } := by
  have lastMessage : log.messageAt last = some message := by
    have same := orderly.cached_message
    rw [cached, held] at same
    exact same.symm
  have places_same (index : Nat) : SendLog.places { log with
      channel := after, framed := framed, cached := none
      discarded := discarded } index = log.places index := by
    unfold places
    rw [if_neg (by simp), held]
    have other (different : index ≠ last) : ¬some last = some index :=
      fun same => different (by cases same; rfl)
    rcases moved with ⟨rfl, rfl, _⟩ | ⟨rfl, rfl, _⟩ <;> dsimp only
    · by_cases here : index = last
      · rw [here, count_concat_self, if_pos rfl]
      · rw [count_concat_of_ne here, if_neg (other here)]
    · by_cases here : index = last
      · rw [here, count_concat_self, if_pos rfl]
        omega
      · rw [count_concat_of_ne here, if_neg (other here)]
  refine ⟨?_, ?_, ?_, ?_, ?_, ?_, by intro _ none; cases none⟩
  · change framed.map log.messageAt = after.framed.map some
    rcases moved with ⟨rfl, _, effect⟩ | ⟨rfl, _, effect⟩
    · rw [map_append, map_singleton, lastMessage, orderly.framed_messages,
        show after.framed = log.channel.framed ++ [message] from
          congrArg Prod.fst effect,
        map_append, map_singleton]
    · rw [orderly.framed_messages,
        show after.framed = log.channel.framed from congrArg Prod.fst effect]
  · change after.messages.2 = none
    rcases moved with ⟨_, _, effect⟩ | ⟨_, _, effect⟩ <;> rw [effect]
  · intro index placed
    rw [places_same] at placed
    exact orderly.bounded index placed
  · intro index
    rw [places_same]
    exact orderly.once index
  · intro index call found answered empty
    rw [places_same]
    exact orderly.accounted index call found answered empty
  · change (framed.filter log.foundEmpty).Pairwise (· < ·)
    rcases moved with ⟨rfl, _, _⟩ | ⟨rfl, _, _⟩
    · rw [filter_append, pairwise_append]
      refine ⟨orderly.inOrder, ?_, ?_⟩
      · exact (pairwise_singleton _ _).sublist filter_sublist
      · intro earlier inFramed later inLast
        obtain ⟨member, found⟩ := mem_filter.mp inFramed
        rw [mem_singleton.mp (mem_filter.mp inLast).1]
        exact orderly.notOvertaken held member found
    · exact orderly.inOrder

theorem Orderly.of_messages (effect : after.messages = log.channel.messages) :
    Orderly { log with channel := after } :=
  { framed_messages := by
      rw [show after.framed = log.channel.framed from
        congrArg Prod.fst effect]
      exact orderly.framed_messages
    cached_message := by
      change after.messages.2 = log.cached.bind log.messageAt
      rw [effect]
      exact orderly.cached_message
    bounded := orderly.bounded
    once := orderly.once
    accounted := orderly.accounted
    inOrder := orderly.inOrder
    cached_last := orderly.cached_last }

theorem Orderly.noteOther
    (effect : Channel.FlushEffect env log.channel after) :
    Orderly (log.noteOther after) ∧
      ∀ index ∈ (log.noteOther after).discarded, index ∈ log.discarded ∨
        log.cached = some index ∧ LosesFlush env log.channel after := by
  have isNone (channel : Channel) :
      channel.cacheBuff.isNone = channel.messages.2.isNone := by
    simp [messages, TxSide.messages, txSide]
  have held (message : Message)
      (cached : log.channel.messages.2 = some message) :
      ∃ last, log.cached = some last := by
    rw [orderly.cached_message] at cached
    cases held : log.cached with
    | none =>
      rw [held] at cached
      cases cached
    | some last => exact ⟨last, rfl⟩
  unfold SendLog.noteOther
  extract_lets noted
  cases effect with
  | kept effect =>
    have framed : after.framed = log.channel.framed :=
      congrArg Prod.fst effect
    have kept := orderly.of_messages effect
    split
    · exact ⟨kept, fun _ => .inl⟩
    next last cached =>
      have still : ¬after.cacheBuff.isNone = true := by
        rw [isNone, effect, ← isNone, orderly.cached_isNone, cached]
        simp
      rw [if_neg (by rw [framed]; exact lt_irrefl _), if_neg still]
      exact ⟨kept, fun _ => .inl⟩
  | flushed message cached effect =>
    obtain ⟨last, equality⟩ := held message cached
    have framed : after.framed = log.channel.framed ++ [message] :=
      congrArg Prod.fst effect
    rw [equality]
    dsimp only
    rw [if_pos (by rw [framed, length_append]; exact lt_succ_self _)]
    exact ⟨orderly.flush equality cached (.inl ⟨rfl, rfl, effect⟩),
      fun _ => .inl⟩
  | dropped message cached effect failed =>
    obtain ⟨last, equality⟩ := held message cached
    have framed : after.framed = log.channel.framed :=
      congrArg Prod.fst effect
    have gone : after.cacheBuff.isNone = true := by
      rw [isNone, effect]
      rfl
    rw [equality]
    dsimp only
    rw [if_neg (by rw [framed]; exact lt_irrefl _), if_pos gone]
    refine ⟨orderly.flush equality cached (.inr ⟨rfl, rfl, effect⟩), ?_⟩
    intro index member
    refine (mem_append.mp member).imp_right fun last => ?_
    exact ⟨congrArg some (mem_singleton.mp last).symm, failed⟩

theorem Orderly.step (env : Env) (registry : Channel.Registry)
    (event : Channel.Event) :
    Orderly (log.step env registry event) ∧
      log.DiscardsLost env registry event := by
  have others (other : ∀ pi data, event ≠ .dataSend pi data)
      (noted : log.step env registry event =
        log.noteOther (log.channel.step env registry event)) :
      Orderly (log.step env registry event) ∧
        log.DiscardsLost env registry event := by
    obtain ⟨after, lost⟩ := orderly.noteOther (step_flushEffect other)
    unfold DiscardsLost
    rw [noted]
    exact ⟨after, fun index member => (lost index member).imp_right .inr⟩
  cases event with
  | dataSend pi data =>
    obtain ⟨after, lost⟩ := @Orderly.noteCall _ _ ⟨⟨pi, data⟩, _, _⟩
      orderly rfl _ (sendOutcome_effect (dataSend_outcome pi data).1)
    refine ⟨after, fun index member => (lost index member).imp_right ?_⟩
    rintro ⟨last, failed⟩
    exact .inl ⟨last, pi, data, rfl, failed⟩
  | _ => exact others (by rintro _ _ ⟨⟩) rfl

end

/-- Along every run a message whose call was answered with success or a full
window, and found no message cached, is in exactly one place: among the frames,
in the cache, or discarded after a copy or a flush that failed.  Such messages
are framed in the order of their calls, and a cached one comes behind all that
are framed. -/
theorem orderly_of_run (env : Env) (registry : Channel.Registry)
    (conf : Conf) (window : UInt8) (events : List Channel.Event) :
    let log := Transition.run (SendLog.step env registry)
      { channel := reliableChannelCreate conf window } events
    (Orderly log ∧ ∀ last index, log.cached = some last → index ∈ log.framed →
        log.foundEmpty index = true → index < last) ∧
      Transition.Meets (SendLog.step env registry) (DiscardsLost env registry)
        { channel := reliableChannelCreate conf window } events := by
  have initial : Orderly { channel := reliableChannelCreate conf window } :=
    { framed_messages := rfl
      cached_message := rfl
      bounded := fun _ placed => absurd placed (lt_irrefl 0)
      once := fun _ => zero_le _
      accounted := by
        intro _ _ found
        cases found
      inOrder := .nil
      cached_last := by
        intro _ none
        cases none }
  have preserved (log : SendLog) (event : Channel.Event)
      (orderly : Orderly log) : Orderly (log.step env registry event) :=
    (orderly.step env registry event).1
  have orderly := Transition.run_invariant_of_step preserved initial events
  refine ⟨⟨orderly, fun _ _ held framed found =>
    orderly.notOvertaken held framed found⟩, ?_⟩
  exact .imp (fun log event orderly _ => preserved log event orderly)
    (fun log event orderly _ => (orderly.step env registry event).2) initial
      (Transition.meets_of_forall fun _ _ => trivial)

/-- Every answered message is framed once or cached, and no cached message is
overtaken. -/
def KeepsAll (log : SendLog) : Prop :=
  (∀ index call, log.calls[index]? = some call → call.Answered →
    log.framed.count index = 1 ∨ log.cached = some index) ∧
  ∀ last index, log.cached = some last → index ∈ log.framed → index < last

/-- Five messages fill a window of four frames and its cache; an abnormal
answer then makes the flush of the cache meet a frame that has been sent as
often as the channel allows. -/
def flushFails : List Channel.Event :=
  [.dataSend 1 [0], .dataSend 1 [1], .dataSend 1 [2], .dataSend 1 [3],
    .dataSend 1 [4],
    .recvFrame ⟨{ frameType := .ack, buff := .new 0, sBit := true
                  reqSeq := 2 }, by decide⟩]

/-- A message of two frames is cached behind three frames; the next message
still fits. -/
def overtakes : List Channel.Event :=
  [.dataSend 1 [0], .dataSend 1 [1], .dataSend 1 [2],
    .dataSend 1 (List.replicate 60 3), .dataSend 1 [4]]

/-- The run that drops the cached message leaves the fifth one nowhere, and
in the other run the fifth message overtakes the fourth. -/
theorem keepsAll_fails :
    let run := fun maxTxThreshold events => Transition.run
      (SendLog.step plainEnv takesAll)
      { channel := reliableChannelCreate
          { plainConf with maxTxThreshold := maxTxThreshold } 4 }
      events
    ¬KeepsAll (run 1 flushFails) ∧ ¬KeepsAll (run 3 overtakes) := by
  intro run
  constructor
  · intro keeps
    have call : (run 1 flushFails).calls[4]? = some
        { message := { pi := 1, data := [4] }
          errno := .transReliableTxWindowFull, cacheEmpty := true } := by
      decide +kernel
    rcases keeps.1 4 _ call (by decide) with framed | cached
    · cases framed
    · cases cached
  · intro keeps
    have places : (run 3 overtakes).framed = [0, 1, 2, 4] ∧
        (run 3 overtakes).cached = some 3 := by
      decide +kernel
    have order := keeps.2 3 4 places.2 (by rw [places.1]; decide)
    omega

end SendLog

end NearLink.Dtap
