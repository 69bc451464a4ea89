import NearLink.Ssap.Server

/-!
# Reading several values at once

`SSAPS_ReadMultiHandleReq` against `SSAPS_ReadSingleHandleReq`.  A response is
read back from its bytes by the layout of `SSAP_PduReadRspItem_S`, and each of
its entries is compared with the response to a request for that item alone.
-/

namespace NearLink.Ssap

open Sdf Keyed List

theorem decode16_encode16 {value : Nat} (bounded : value < 65536)
    (rest : Bytes) : decode16 (encode16 value ++ rest) 0 = value := by
  simp only [decode16, byteAt, encode16, cons_append, nil_append,
    getD_cons_zero, getD_cons_succ, UInt8.toNat_ofNat']
  omega

/-- The entries of a list of `SSAP_PduReadRspItem_S`: a code without the
success bit, or the bytes behind a length.  Every entry takes two bytes at
least, which bounds their number. -/
def readRspItems : Nat → Bytes → List (Except Nat Bytes)
  | fuel + 1, low :: high :: rest =>
    let field := low.toNat + 256 * high.toNat
    if field < 0x8000 then .error field :: readRspItems fuel rest
    else
      .ok (rest.take (field - 0x8000)) ::
        readRspItems fuel (rest.drop (field - 0x8000))
  | _, _ => []

def readRspEntries (pdu : Bytes) : List (Except Nat Bytes) :=
  readRspItems pdu.length (pdu.drop pduBaseLen)

def readRspValue (pdu : Bytes) : Except Nat Bytes :=
  if byteAt pdu 1 &&& 8 = 0 then .ok (pdu.drop pduBaseLen)
  else .error (decode16 (pdu.drop pduBaseLen) 0 % 0x8000)

/-- What a result looks like from outside, where an absent value is an empty
one. -/
def reported : Except ErrCode (Option Bytes) → Except Nat Bytes
  | .error errorCode => .error errorCode.value.toNat
  | .ok value => .ok (value.getD [])

namespace Server

/-- `SSAPS_ReadMultiHandleReq`.  The number of results is passed on in 16
bits. -/
def readMultiHandleReq (server : Server) (link : Link) (items : List Item) :
    Outcome :=
  (server, some (sendMultiReadReqRsp
    ((items.map (server.readMultiHandleItem link)).take
      (items.length % (uint16Max + 1)))))

/-- The result `SSAPS_ReadSingleHandleReq` reports for an item that needs no
authorization. -/
def readSingle (server : Server) (link : Link) (item : Item) :
    Except ErrCode Bytes :=
  match (server.table.getPropertyByHandle item.handle).bind fun property =>
      (property.getPermissionAndOperation item.type).map fun access =>
        (property, access) with
  | none =>
    if server.table.isHandleExist item.handle then .error .dataType
    else .error .invalidHandle
  | some (property, permissions, opIndication) =>
    match server.readControlCheck opIndication permissions link with
    | .success => getPropertyValue link property item.type
    | errorCode => .error errorCode

def MultiReadIsSingleReads (server : Server) (link : Link) (items : List Item) : Prop :=
  ∃ response, (server.readMultiHandleReq link items).2 = some response ∧
    ∀ (index : Nat) (item : Item), items[index]? = some item →
      ∃ single, (server.readSingleHandleReq link item).2 = some single ∧
        (readRspEntries response)[index]? = some (readRspValue single)

/-- An item both paths classify alike: it is a readable one, or a property
without the type inside its service, or a handle of no service. -/
def SameClass (server : Server) (link : Link) (item : Item) : Prop :=
  match server.table.getPropertyByHandle item.handle with
  | none => server.table.isHandleExist item.handle = false
  | some property =>
    match property.getPermissionAndOperation item.type with
    | none => server.table.isHandleExist item.handle = true
    | some (permissions, opIndication) =>
      server.readControlCheck opIndication permissions link = .success

theorem length_serializeMultiReadItem (result : Except ErrCode (Option Bytes)) :
    2 ≤ (serializeMultiReadItem result).length := by
  cases result with
  | error errorCode => simp [serializeMultiReadItem, encode16]
  | ok value =>
    cases value with
    | none | some => simp [serializeMultiReadItem, encode16]

theorem code_lt (errorCode : ErrCode) :
    errorCode.value.toNat < 0x8000 := by
  cases errorCode <;> decide

theorem readRspItems_serialize (result : Except ErrCode (Option Bytes))
    (short : ∀ value, result = .ok (some value) → value.length < 0x8000)
    (fuel : Nat) (rest : Bytes) :
    readRspItems (fuel + 1) (serializeMultiReadItem result ++ rest) =
      reported result :: readRspItems fuel rest := by
  cases result with
  | error errorCode =>
    have bounded := code_lt errorCode
    have field := decode16_encode16
      (show errorCode.value.toNat < 65536 by omega) []
    simp only [decode16, byteAt, encode16, cons_append,
      getD_cons_zero, getD_cons_succ] at field
    simp only [serializeMultiReadItem, encode16, cons_append,
      nil_append, readRspItems, field, bounded, if_true, reported]
  | ok value =>
    cases value with
    | none => simp [serializeMultiReadItem, encode16, readRspItems, reported]
    | some value =>
      have bounded := short value rfl
      have field := decode16_encode16
        (show value.length + 0x8000 < 65536 by omega) []
      simp only [decode16, byteAt, encode16, cons_append,
        getD_cons_zero, getD_cons_succ] at field
      have large : ¬ value.length + 0x8000 < 0x8000 := by omega
      simp only [serializeMultiReadItem, encode16, cons_append,
        nil_append, readRspItems, field, large, if_false, reported,
        Option.getD_some, Nat.add_sub_cancel]
      rw [take_left, drop_left]

section

variable (results : List (Except ErrCode (Option Bytes)))
include results

theorem readRspItems_flatMap
    (short : ∀ value, .ok (some value) ∈ results → value.length < 0x8000)
    (fuel : Nat) (enough : results.length ≤ fuel) :
    readRspItems fuel (results.flatMap serializeMultiReadItem) =
      results.map reported := by
  induction results generalizing fuel with
  | nil => cases fuel <;> rfl
  | cons result results induction =>
    obtain ⟨left, rfl⟩ : ∃ left, fuel = left + 1 :=
      ⟨fuel - 1, by simp only [length_cons] at enough; omega⟩
    rw [flatMap_cons, readRspItems_serialize]
    · rw [induction]
      · rfl
      · intro value member
        exact short value (.tail _ member)
      · simpa using enough
    · intro value same
      exact short value (same ▸ mem_cons_self)

theorem length_le_flatMap :
    results.length ≤ (results.flatMap serializeMultiReadItem).length := by
  induction results with
  | nil => exact Nat.le_refl 0
  | cons result results induction =>
    have least := length_serializeMultiReadItem result
    simp only [length_cons, flatMap_cons, length_append]
    omega

theorem readRspEntries_sendMultiReadReqRsp
    (short : ∀ value, .ok (some value) ∈ results → value.length < 0x8000) :
    readRspEntries (sendMultiReadReqRsp results) = results.map reported := by
  have bounded := length_le_flatMap results
  unfold readRspEntries sendMultiReadReqRsp
  apply readRspItems_flatMap results short
  simp only [length_append]
  omega

end

theorem readRspValue_sendReadReqRsp (result : Except ErrCode Bytes) :
    readRspValue (sendReadReqRsp result) = reported (result.map some) := by
  cases result with
  | error errorCode =>
    have bounded := code_lt errorCode
    have field := decode16_encode16
      (show errorCode.value.toNat < 65536 by omega) []
    rw [append_nil] at field
    have flagged : ¬ byteAt (sendReadReqRsp (.error errorCode)) 1 &&& 8 =
        0 := by
      change ¬ ctrlNoFrag + 8 &&& 8 = 0
      decide
    rw [readRspValue, if_neg flagged]
    change Except.error (decode16 (encode16 _) 0 % 0x8000) = _
    rw [field, Nat.mod_eq_of_lt bounded]
    rfl
  | ok value =>
    have clear : byteAt (sendReadReqRsp (.ok value)) 1 &&& 8 = 0 := by
      change ctrlNoFrag &&& 8 = 0
      decide
    rw [readRspValue, if_pos clear]
    rfl

variable {server : Server} {link : Link} {item : Item} {items : List Item}

theorem getPropertyValue_short {property : Property} {type : UInt8}
    {value : Bytes} (stored : getPropertyValue link property type = .ok value) :
    value.length < 0x8000 := by
  have high := link.mtuHigh
  unfold getPropertyValue at stored
  cases found : property.getVal link.addr type with
  | none => simp [found] at stored
  | some content =>
    simp only [found] at stored
    split_ifs at stored with empty long
    obtain rfl : content = value := by simpa using stored
    simp only [stackMtuMax] at high
    omega

theorem readMultiHandleItem_short {value : Bytes}
    (result : server.readMultiHandleItem link item = .ok (some value)) :
    value.length < 0x8000 := by
  unfold readMultiHandleItem at result
  cases located : server.table.getPropertyByHandle item.handle with
  | none => simp [located] at result
  | some property =>
    simp only [located] at result
    cases granted : property.getPermissionAndOperation item.type with
    | none => simp [granted] at result
    | some access =>
      simp only [granted] at result
      cases checked : server.readControlCheck access.2 access.1 link with
      | success =>
        simp only [checked] at result
        cases stored : getPropertyValue link property item.type with
        | error errorCode => simp [stored] at result
        | ok content =>
          obtain rfl : content = value := by
            simpa [stored] using result
          exact getPropertyValue_short stored
      | _ => simp [checked] at result

theorem readSingleHandleReq_free
    (free : server.checkMultiReadAuthNeed [item] = false) :
    server.readSingleHandleReq link item =
      (server, some (sendReadReqRsp (server.readSingle link item))) := by
  unfold readSingleHandleReq readSingle handleReadReqError
  simp only [checkMultiReadAuthNeed, any_cons, any_nil, Bool.or_false] at free
  cases located : server.table.getPropertyByHandle item.handle with
  | none =>
    simp only [Option.bind_none]
    split <;> rfl
  | some property =>
    simp only [located] at free
    simp only [Option.bind_some]
    cases granted : property.getPermissionAndOperation item.type with
    | none =>
      simp only [Option.map_none]
      split <;> rfl
    | some access =>
      have open' : ¬ access.1 &&& permissionAuthorizationNeed ≠ 0 := by
        simpa [granted] using free
      simp only [Option.map_some]
      cases server.readControlCheck access.2 access.1 link with
      | success => simp only [open', if_false]
      | _ => rfl

/-- The two paths report alike exactly for an item they classify alike. -/
theorem reported_eq_iff (item : Item) :
    reported (server.readMultiHandleItem link item) =
        reported ((server.readSingle link item).map some) ↔
      server.SameClass link item := by
  unfold readMultiHandleItem readSingle SameClass
  cases server.table.getPropertyByHandle item.handle with
  | none =>
    cases server.table.isHandleExist item.handle with
    | true => simp [reported, Except.map, ErrCode.value]
    | false => simp [reported, Except.map]
  | some property =>
    simp only [Option.bind_some]
    cases property.getPermissionAndOperation item.type with
    | none =>
      cases server.table.isHandleExist item.handle with
      | true => simp [reported, Except.map]
      | false => simp [reported, Except.map, ErrCode.value]
    | some access =>
      simp only [Option.map_some]
      cases server.readControlCheck access.2 access.1 link with
      | success =>
        cases getPropertyValue link property item.type <;>
          simp [reported, Except.map]
      | _ => simp [reported, Except.map]

theorem checkMultiReadAuthNeed_mem
    (free : server.checkMultiReadAuthNeed items = false)
    (member : item ∈ items) :
    server.checkMultiReadAuthNeed [item] = false := by
  unfold checkMultiReadAuthNeed at free ⊢
  rw [any_eq_false] at free
  simpa using free item member

theorem readRspEntries_readMultiHandleReq (server : Server) (link : Link)
    (items : List Item) :
    (server.readMultiHandleReq link items).2.map readRspEntries =
      some (((items.map (server.readMultiHandleItem link)).take
        (items.length % (uint16Max + 1))).map reported) := by
  unfold readMultiHandleReq
  rw [Option.map_some, readRspEntries_sendMultiReadReqRsp]
  intro value member
  obtain ⟨item, _, result⟩ := mem_map.mp (mem_of_mem_take member)
  exact readMultiHandleItem_short result

theorem entry_eq_some (counted : items.length ≤ uint16Max) {index : Nat}
    (located : items[index]? = some item) :
    (((items.map (server.readMultiHandleItem link)).take
        (items.length % (uint16Max + 1))).map reported)[index]? =
      some (reported (server.readMultiHandleItem link item)) := by
  have whole : items.length % (uint16Max + 1) = items.length :=
    Nat.mod_eq_of_lt (Nat.lt_succ_of_le counted)
  rw [whole, take_of_length_le (by simp), map_map,
    getElem?_map, located]
  rfl

/-- Reading several values is reading each of them exactly for the requests
whose items both paths classify alike. -/
theorem multiReadIsSingleReads_iff (server : Server) (link : Link)
    (items : List Item) (free : server.checkMultiReadAuthNeed items = false) :
    server.MultiReadIsSingleReads link items ↔ items.length ≤ uint16Max ∧
        ∀ item ∈ items, server.SameClass link item := by
  have entries := readRspEntries_readMultiHandleReq server link items
  constructor
  · rintro ⟨response, sent, agree⟩
    rw [sent, Option.map_some] at entries
    have read := Option.some.inj entries
    have counted : items.length ≤ uint16Max := by
      by_contra many
      -- The first item past the truncated count has no entry.
      have below : items.length % (uint16Max + 1) < uint16Max + 1 :=
        Nat.mod_lt _ (Nat.succ_pos _)
      have missing : items.length % (uint16Max + 1) < items.length := by
        omega
      obtain ⟨single, _, entry⟩ := agree _ _ (getElem?_eq_getElem missing)
      rw [read, getElem?_eq_none (by simp)] at entry
      exact absurd entry (by simp)
    refine ⟨counted, ?_⟩
    intro item member
    obtain ⟨index, located⟩ := mem_iff_getElem?.mp member
    obtain ⟨single, answered, entry⟩ := agree index item located
    rw [readSingleHandleReq_free
      (checkMultiReadAuthNeed_mem free member)] at answered
    obtain rfl := Option.some.inj answered
    rw [read, entry_eq_some counted located, readRspValue_sendReadReqRsp]
      at entry
    exact (reported_eq_iff item).mp (Option.some.inj entry)
  · rintro ⟨counted, same⟩
    refine ⟨_, rfl, ?_⟩
    intro index item located
    have member := mem_of_getElem? located
    refine ⟨_, by rw [readSingleHandleReq_free
      (checkMultiReadAuthNeed_mem free member)], ?_⟩
    have read := Option.some.inj entries
    rw [read, entry_eq_some counted located, readRspValue_sendReadReqRsp,
      (reported_eq_iff item).mpr (same item member)]

def mixedTable : Table where
  services :=
    [{ handle := 1
       endHandle := 3
       uuid := []
       serviceType := 0
       properties :=
         [⟨2, [], operateIndicationRead, 0, [], [7]⟩, ⟨3, [], 0, 0, [], [8]⟩]
       methods := [] }]
  unique := by decide

def mixedLink : Link := ⟨⟨0, 1⟩, 0, 251, by decide, by decide⟩

theorem multiReadIsSingleReads_mixed :
    (init mixedTable).MultiReadIsSingleReads mixedLink [⟨2, 0⟩, ⟨9, 0⟩] := by
  refine (multiReadIsSingleReads_iff _ _ _ (by decide)).mpr
    ⟨by decide, ?_⟩
  intro item member
  simp only [mem_cons, not_mem_nil, or_false] at member
  rcases member with rfl | rfl
  · exact (by decide :
      (init mixedTable).readControlCheck operateIndicationRead 0 mixedLink =
        .success)
  · exact (by decide : mixedTable.isHandleExist 9 = false)

/-- A property that may not be read is reported as an empty value among
others, and as forbidden alone. -/
theorem multiReadIsSingleReads_fails :
    ∃ (server : Server) (link : Link) (items : List Item),
      2 ≤ items.length ∧ server.checkMultiReadAuthNeed items = false ∧
        ¬ server.MultiReadIsSingleReads link items := by
  refine ⟨init mixedTable, mixedLink, [⟨2, 0⟩, ⟨3, 0⟩], by decide,
    by decide, ?_⟩
  rintro ⟨response, sent, agree⟩
  obtain ⟨single, answered, entry⟩ := agree 1 ⟨3, 0⟩ rfl
  obtain rfl := Option.some.inj sent
  obtain rfl := Option.some.inj answered
  exact absurd entry (by decide)

end Server

end NearLink.Ssap
