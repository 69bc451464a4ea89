import NearLink.Dtap.Fragmentation
import NearLink.Dtap.RecvStep
import NearLink.Dtap.Wire

/-!
# Reassembly undoes fragmentation

`DTAP_RecvFragmentFrame` as a fold over the items that the frames carry, and
the round trip with `DTAP_FragmentFrame`: the items of a stream of messages,
cut off anywhere, reassemble to a prefix of the messages.
-/

namespace NearLink.Dtap

open Sdf Channel List

def assembleStep :
    Option Bytes × List Message → Item → Option Bytes × List Message
  | (frags, done), item =>
    match item.sar, frags with
    | .unseg, frags => (frags, done ++ [⟨item.pi, item.piece⟩])
    | .first, _ => (some item.piece, done)
    | .mid, none => (none, done)
    | .mid, some collected =>
      if collected.length + item.piece.length > maxFragTotalLen then
        (none, done)
      else (some (collected ++ item.piece), done)
    | .last, none => (none, done)
    | .last, some collected =>
      if collected.length + item.piece.length > maxFragTotalLen then
        (none, done)
      else (none, done ++ [⟨item.pi, collected ++ item.piece⟩])

def assemble (items : List Item) : Option Bytes × List Message :=
  items.foldl assembleStep (none, [])

theorem assembleStep_first (pi : Nat) (piece : Bytes)
    (frags : Option Bytes) (done : List Message) :
    assembleStep (frags, done) ⟨pi, .first, piece⟩ = (some piece, done) := by
  cases frags <;> rfl

variable {collected piece : Bytes} {index cnt : Nat} {pieces : List Bytes}
  {done : List Message}

section

variable (pi : Nat) (done : List Message)
  (short : collected.length + piece.length ≤ maxFragTotalLen)
include short

theorem assembleStep_mid :
    assembleStep (some collected, done) ⟨pi, .mid, piece⟩ =
      (some (collected ++ piece), done) :=
  if_neg (Nat.not_lt.mpr short)

theorem assembleStep_last :
    assembleStep (some collected, done) ⟨pi, .last, piece⟩ =
      (none, done ++ [⟨pi, collected ++ piece⟩]) :=
  if_neg (Nat.not_lt.mpr short)

end

theorem getFragFrameSar_mid (started : 0 < index) (before : index + 1 < cnt) :
    getFragFrameSar cnt (index + 1) = .mid := by
  unfold getFragFrameSar
  rw [if_neg (by omega), if_neg (by omega), if_pos before]

theorem getFragFrameSar_last (started : 0 < index) (end_ : index + 1 = cnt) :
    getFragFrameSar cnt (index + 1) = .last := by
  unfold getFragFrameSar
  rw [if_neg (by omega), if_neg (by omega), if_neg (by omega)]

section

variable (count : index + pieces.length = cnt) (started : 0 < index)
include count started

theorem assemble_collecting {pi : Nat} (nonempty : pieces ≠ [])
    (short : (collected ++ pieces.flatten).length ≤ maxFragTotalLen) :
    (fragmentItems pi cnt index pieces).foldl assembleStep
        (some collected, done) =
      (none, done ++ [⟨pi, collected ++ pieces.flatten⟩]) := by
  induction pieces generalizing index collected with
  | nil => exact absurd rfl nonempty
  | cons piece rest induction =>
    rw [length_cons] at count
    rw [flatten_cons] at short ⊢
    rw [fragmentItems, foldl_cons]
    have fits : collected.length + piece.length ≤ maxFragTotalLen := by
      simp only [length_append] at short
      omega
    cases rest with
    | nil =>
      rw [getFragFrameSar_last started (by simpa using count),
        assembleStep_last pi done fits]
      simp [fragmentItems]
    | cons second rest =>
      rw [length_cons] at count
      rw [getFragFrameSar_mid started (by omega),
        assembleStep_mid pi done fits,
        induction (by rw [length_cons]; omega)
          (Nat.succ_pos index) (cons_ne_nil _ _)
          (by rwa [append_assoc]),
        append_assoc]

theorem assemble_collecting_take {pi kept : Nat} (cut : kept < pieces.length)
    (short : (collected ++ pieces.flatten).length ≤ maxFragTotalLen) :
    ∃ frags, ((fragmentItems pi cnt index pieces).take kept).foldl
      assembleStep (some collected, done) = (frags, done) := by
  induction pieces generalizing index collected kept with
  | nil => exact absurd cut (Nat.not_lt_zero _)
  | cons piece rest induction =>
    cases kept with
    | zero => exact ⟨some collected, rfl⟩
    | succ kept =>
      rw [length_cons] at count cut
      rw [flatten_cons] at short
      have fits : collected.length + piece.length ≤ maxFragTotalLen := by
        simp only [length_append] at short
        omega
      rw [fragmentItems, take_succ_cons, foldl_cons,
        getFragFrameSar_mid started (by omega),
        assembleStep_mid pi done fits]
      exact induction (by omega) (Nat.succ_pos index) (by omega)
        (by rwa [append_assoc])

end

/-- A message that passes the length check of `DTAP_DataSend`, with a protocol
number that fits its field. -/
structure Message.Valid (message : Message) : Prop where
  nonempty : 0 < message.data.length
  short : message.data.length ≤ maxPayloadLen
  byte : message.pi < 256

section Stream

variable {mps : Nat} {message : Message} {done : List Message} {item : Item}

section

variable (positive : 0 < mps) {messages : List Message}
include positive

section

variable (valid : message.Valid)
include valid

theorem messagePieces :
    ∃ first rest, fragmentPieces mps message.data.length message.data =
        first :: rest ∧
      first ++ rest.flatten = message.data ∧
      getFragmentFramesNum message.data.length mps = rest.length + 1 := by
  have flat := @fragmentPieces_flatten mps _ message.data positive (le_rfl)
  have count := @fragmentPieces_length_eq mps message.data positive
    (Nat.lt_of_le_of_lt valid.short (by decide))
  cases pieces : fragmentPieces mps message.data.length message.data with
  | nil =>
    rw [pieces] at flat
    have nonempty := valid.nonempty
    rw [← flat] at nonempty
    exact absurd nonempty (Nat.lt_irrefl 0)
  | cons first rest =>
    rw [pieces] at flat count
    exact ⟨first, rest, rfl, flat, count.symm⟩

theorem messageItems_length : (messageItems mps message).length =
      getFragmentFramesNum message.data.length mps := by
  have count := @fragmentPieces_length_eq mps message.data positive
    (Nat.lt_of_le_of_lt valid.short (by decide))
  have items (pi cnt index : Nat) (pieces : List Bytes) :
      (fragmentItems pi cnt index pieces).length = pieces.length := by
    induction pieces generalizing index with
    | nil => rfl
    | cons piece rest induction =>
      rw [fragmentItems, length_cons, induction, length_cons]
  unfold messageItems
  rw [items, count]

theorem assemble_message :
    (messageItems mps message).foldl assembleStep (none, done) =
      (none, done ++ [message]) := by
  obtain ⟨first, rest, pieces, flat, count⟩ :=
    @messagePieces mps message positive valid
  have short : (first ++ rest.flatten).length ≤ maxFragTotalLen := by
    rw [flat]
    exact Nat.le_trans valid.short (by decide)
  unfold messageItems
  rw [pieces, count, fragmentItems, foldl_cons]
  cases rest with
  | nil =>
    have whole : first = message.data := by simpa using flat
    rw [whole]
    rfl
  | cons second rest =>
    have sar : getFragFrameSar ((second :: rest).length + 1) (0 + 1) =
        .first := by
      unfold getFragFrameSar
      rw [if_neg (by simp), if_pos rfl]
    rw [sar, assembleStep_first, assemble_collecting (by omega) (Nat.succ_pos 0)
        (cons_ne_nil _ _) short, flat]

theorem assemble_message_take {kept : Nat}
    (cut : kept < (messageItems mps message).length) :
    ∃ frags, ((messageItems mps message).take kept).foldl assembleStep
      (none, done) = (frags, done) := by
  obtain ⟨first, rest, pieces, flat, count⟩ :=
    @messagePieces mps message positive valid
  have short : (first ++ rest.flatten).length ≤ maxFragTotalLen := by
    rw [flat]
    exact Nat.le_trans valid.short (by decide)
  rw [messageItems_length positive valid, count] at cut
  unfold messageItems
  rw [pieces, count]
  cases kept with
  | zero => exact ⟨none, rfl⟩
  | succ kept =>
    have sar : getFragFrameSar (rest.length + 1) (0 + 1) = .first := by
      unfold getFragFrameSar
      rw [if_neg (by omega), if_pos rfl]
    rw [fragmentItems, take_succ_cons, foldl_cons, sar, assembleStep_first]
    exact assemble_collecting_take (by omega) (Nat.succ_pos 0) (by omega)
      short

end

section

variable (valid : ∀ message ∈ messages, message.Valid) (kept : Nat)
include valid

omit kept in
theorem assemble_messages :
    (messages.flatMap (messageItems mps)).foldl assembleStep (none, done) =
      (none, done ++ messages) := by
  induction messages generalizing done with
  | nil => simp
  | cons message messages induction =>
    rw [flatMap_cons, foldl_append,
      assemble_message positive (valid message mem_cons_self),
      induction fun other member => valid other (.tail _ member)]
    simp

theorem assemble_stream : ∃ frags completed, completed <+: messages ∧
      ((messages.flatMap (messageItems mps)).take kept).foldl assembleStep
        (none, done) = (frags, done ++ completed) := by
  induction messages generalizing kept done with
  | nil => exact ⟨none, [], prefix_refl _, by simp⟩
  | cons message messages induction =>
    have head := valid message mem_cons_self
    rw [flatMap_cons, take_append, foldl_append]
    by_cases cut : kept < (messageItems mps message).length
    · obtain ⟨frags, collected⟩ :=
        @assemble_message_take mps message done positive head kept cut
      rw [collected, Nat.sub_eq_zero_of_le (Nat.le_of_lt cut)]
      exact ⟨frags, [], nil_prefix, by simp⟩
    · obtain ⟨frags, completed, isPrefix, rest⟩ :=
        @induction (done ++ [message])
          (fun other member => valid other (.tail _ member))
          (kept - (messageItems mps message).length)
      rw [take_of_length_le (Nat.not_lt.mp cut),
        assemble_message positive head, rest]
      refine ⟨frags, message :: completed, ?_, by simp⟩
      exact cons_prefix_cons.mpr ⟨rfl, isPrefix⟩

theorem assemble_prefix :
    (assemble ((messages.flatMap (messageItems mps)).take kept)).2 <+:
      messages := by
  obtain ⟨frags, completed, isPrefix, assembled⟩ :=
    @assemble_stream mps [] positive messages valid kept
  unfold assemble
  rw [assembled]
  exact isPrefix

end

end

theorem mem_fragmentItems {pi cnt index : Nat} {pieces : List Bytes}
    (member : item ∈ fragmentItems pi cnt index pieces) :
    item.pi = pi ∧ item.piece ∈ pieces := by
  induction pieces generalizing index with
  | nil => cases member
  | cons piece rest induction =>
    rcases mem_cons.mp member with rfl | later
    · exact ⟨rfl, .head _⟩
    · obtain ⟨same, inside⟩ := induction later
      exact ⟨same, .tail _ inside⟩

theorem mem_messageItems (positive : 0 < mps)
    (member : item ∈ messageItems mps message) :
    item.pi = message.pi ∧ item.piece.length ≤ message.data.length := by
  obtain ⟨same, inside⟩ := mem_fragmentItems member
  have part := (sublist_flatten_of_mem inside).length_le
  rw [fragmentPieces_flatten positive (le_rfl)] at part
  exact ⟨same, part⟩

end Stream

def Host.messages (host : Host) : List Message :=
  host.up.map fun call => { pi := call.info.pi, data := call.sdu }

theorem Host.messages_recv (host : Host) (recvCb : RecvCb)
    (info : DataInfo) (sdu : Bytes) :
    (host.recv recvCb info sdu).2.messages =
      host.messages ++ [⟨info.pi, sdu⟩] := by
  simp [messages, recv]

section Frames

variable {env : Env} {callback : RecvCb}

section

variable (allocates : ∀ tick, env.alloc tick = true)
include allocates

theorem updateFragmentFrame_allocated (buffs buff : Bytes) (host : Host) :
    updateFragmentFrame env buffs buff host =
      if buffs.length + buff.length > maxFragTotalLen then
        (.enhancedFrameFragmentFrameLenErr, none, host)
      else (.success, some (buffs ++ buff), host.skip 1) := by
  unfold updateFragmentFrame
  rw [allocates]
  rfl

theorem recvFragmentPayload_assembles (takes : NeverFull (some callback))
    (frags : Option Bytes) (sar : Sar) (piece : Bytes) (info : DataInfo)
    (host : Host) :
    ∃ errno later, recvFragmentPayload env frags sar piece info
        (some callback) host =
        (errno, (assembleStep (frags, host.messages)
          ⟨info.pi, sar, piece⟩).1, later) ∧
      later.messages = (assembleStep (frags, host.messages)
        ⟨info.pi, sar, piece⟩).2 ∧
      later.out = host.out := by
  cases sar with
  | unseg =>
    have answer := takes.recv host info piece
    unfold recvFragmentPayload
    dsimp only
    split
    next full =>
      rw [full] at answer
      cases answer
    next later taken =>
      have messages := host.messages_recv callback info piece
      rw [taken] at messages
      refine ⟨_, later, rfl, messages, ?_⟩
      exact (congrArg (·.2.out) taken).symm
  | first =>
    unfold recvFragmentPayload
    rw [allocates, if_pos rfl, assembleStep_first]
    exact ⟨_, _, rfl, rfl, rfl⟩
  | mid =>
    cases frags with
    | none => exact ⟨_, _, rfl, rfl, rfl⟩
    | some collected =>
      unfold recvFragmentPayload assembleStep
      dsimp only
      rw [updateFragmentFrame_allocated allocates]
      split
      all_goals exact ⟨_, _, rfl, rfl, rfl⟩
  | last =>
    cases frags with
    | none => exact ⟨_, _, rfl, rfl, rfl⟩
    | some collected =>
      unfold recvFragmentPayload assembleStep
      dsimp only
      rw [updateFragmentFrame_allocated allocates]
      by_cases long :
          collected.length + piece.length > maxFragTotalLen
      · rw [if_pos long, if_pos long]
        exact ⟨_, _, rfl, rfl, rfl⟩
      · rw [if_neg long, if_neg long]
        have answer := takes.recv (host.skip 1) info (collected ++ piece)
        dsimp only
        split
        next full =>
          rw [full] at answer
          cases answer
        next later taken =>
          have messages := (host.skip 1).messages_recv callback info
            (collected ++ piece)
          rw [taken] at messages
          refine ⟨_, later, rfl, messages, ?_⟩
          exact (congrArg (·.2.out) taken).symm

end

theorem simplexFrame_trim (crcInit : UInt16) (tcid : Nat) (polled : Bool)
    (seq : Nat) (item : Item) :
    ∃ headless payload,
      (simplexFrame crcInit tcid polled seq item).buff.trimPrefix 7 =
        some headless ∧
      headless.trimSuffix crcLen = some payload ∧
      payload.data = item.piece := by
  let wire := simplexWire crcInit tcid polled seq item
  have length : wire.length = item.piece.length + 9 := simplexWire_length ..
  let headless : Buff :=
    { head := [] ++ wire.take 7, data := wire.drop 7, tail := [] }
  refine ⟨headless, _, if_neg (by change ¬7 > wire.length; omega),
    if_neg ?_, ?_⟩
  · change ¬2 > (wire.drop 7).length
    rw [length_drop]
    omega
  · change (wire.drop 7).take ((wire.drop 7).length - 2) = item.piece
    have dropped : wire.drop 7 = _ :=
      simplexWire_drop crcInit tcid polled seq item
    rw [length_drop, length, dropped,
      show item.piece.length + 9 - 7 - 2 = item.piece.length by omega,
      take_left]

namespace Channel

theorem recvFirstFrame_assembles {channel : Channel}
    (allocates : ∀ tick, env.alloc tick = true)
    (takes : NeverFull (some callback)) (crcInit : UInt16) (tcid : Nat)
    (polled : Bool) (seq : Nat) {item : Item} (byte : item.pi < 256) :
    let result := (channel.recvFirstFrame env (some callback)
      (simplexFrame crcInit tcid polled seq item)).2.2
    (result.frags, result.host.messages) =
        assembleStep (channel.frags, channel.host.messages) item ∧
      result.host.out = channel.host.out := by
  obtain ⟨headless, payload, prefixed, suffixed, data⟩ :=
    simplexFrame_trim crcInit tcid polled seq item
  let info : DataInfo :=
    { pi := item.pi % 256, lcid := channel.conf.lcid
      tcid := channel.conf.dstTcid }
  obtain ⟨errno, later, received, messages, out⟩ :=
    recvFragmentPayload_assembles allocates takes channel.frags item.sar
      item.piece info channel.host
  have whole : (⟨info.pi, item.sar, item.piece⟩ : Item) = item := by
    rw [show info.pi = item.pi from Nat.mod_eq_of_lt byte]
  rw [whole] at received messages
  have handed : recvFragmentFrame env channel.frags
      (simplexFrame crcInit tcid polled seq item) info (some callback)
      channel.host =
        (errno, (assembleStep (channel.frags, channel.host.messages) item).1,
          { simplexFrame crcInit tcid polled seq item with buff := payload },
          later) := by
    unfold recvFragmentFrame
    have offset : (simplexFrame crcInit tcid polled seq item).headerLen +
        (simplexFrame crcInit tcid polled seq item).extensionLen = 7 := rfl
    rw [offset, prefixed]
    dsimp only
    rw [suffixed]
    dsimp only
    rw [data, show (simplexFrame crcInit tcid polled seq item).sar = item.sar
      from rfl, received]
  have step : (channel.recvFirstFrame env (some callback)
      (simplexFrame crcInit tcid polled seq item)).2.2 =
        { channel.recordHanded { simplexFrame crcInit tcid polled seq item
            with buff := payload } with
          frags := (assembleStep (channel.frags, channel.host.messages) item).1
          host := later } := by
    have dispatched : (channel.recvFirstFrame env (some callback)
        (simplexFrame crcInit tcid polled seq item)).2.2 =
          let result := recvFragmentFrame env channel.frags
            (simplexFrame crcInit tcid polled seq item) info (some callback)
            channel.host
          { channel.recordHanded result.2.2.1 with
            frags := result.2.1, host := result.2.2.2 } := rfl
    rw [dispatched, handed]
  rw [step]
  exact ⟨Prod.ext rfl messages, out⟩

end Channel

end Frames

end NearLink.Dtap
