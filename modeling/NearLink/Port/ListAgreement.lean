import Mathlib.Data.List.GetD
import Mathlib.Data.List.Induction
import NearLink.Port.LifeCycle

/-!
# Agreement on the port list

The value that the server publishes is read back as the list it was built
from, as long as the client takes that many entries.
-/

namespace NearLink.Port

open Sdf List PrivateInfo

theorem length_bytes (info : PrivateInfo) : info.bytes.length = infoLen := by
  simp [bytes, wordBytes, infoLen]

@[simp] theorem wordAt_wordBytes (word : UInt16) (rest : Bytes) :
    wordAt (wordBytes word ++ rest) = word := by
  apply UInt16.toNat_inj.mp
  have small : word.toNat < 65536 := word.toNat_lt
  simp only [wordAt, wordBytes, cons_append, getD_cons_zero,
    getD_cons_succ, UInt16.toNat_ofNat', UInt8.toNat_ofNat']
  omega

theorem readInfos_bytes (list : List PrivateInfo) :
    Client.readInfos list.length (list.flatMap bytes) = list := by
  induction list with
  | nil => rfl
  | cons info list induction =>
    have rest : (info.bytes ++ list.flatMap bytes).drop
        infoLen = list.flatMap bytes := by
      rw [← length_bytes info, drop_left]
    have id : wordAt ((info.bytes ++
        list.flatMap bytes).drop 2) = info.manufactureId :=
      wordAt_wordBytes info.manufactureId _
    have uuid : (Vector.ofFn fun index : Fin 16 =>
        (info.bytes ++ list.flatMap bytes).getD (4 + index) 0) = info.uuid := by
      ext index small
      have behind : (info.uuid.toList ++ list.flatMap
          bytes)[index]? = some info.uuid[index] := by
        rw [getElem?_append_left (by simpa using small)]
        simp [small]
      simp [bytes, wordBytes, Nat.add_comm 4, behind]
    rw [flatMap_cons, length_cons, Client.readInfos, rest, induction, id, uuid]
    simp [bytes]

theorem length_getPropertyValue (list : List PrivateInfo) :
    (getPropertyValue list).length = list.length * infoLen + 2 := by
  simp [getPropertyValue, wordBytes, length_flatMap, length_bytes]

variable {list : List PrivateInfo}

section

variable (published : Published list)
include published

theorem wordAt_getPropertyValue :
    (wordAt (getPropertyValue list)).toNat = list.length := by
  have bound : list.length ≤ 255 := published.bound
  rw [getPropertyValue, wordAt_wordBytes, UInt16.toNat_ofNat']
  omega

theorem valueChecked_getPropertyValue :
    Client.valueChecked (getPropertyValue list) = true ↔
      list.length ≤ clientMaxNum := by
  simp [Client.valueChecked, wordAt_getPropertyValue published,
    length_getPropertyValue]

theorem valueInfos_getPropertyValue :
    Client.valueInfos (getPropertyValue list) = list := by
  have same : (getPropertyValue list).drop 2 = list.flatMap bytes := rfl
  rw [Client.valueInfos, wordAt_getPropertyValue published, same,
    readInfos_bytes]

end

def Output.heard : Output → Option ConnectState
  | .stateChange cur _ _ => some cur
  | _ => none

def Client.heard (client : Client) : Option ConnectState :=
  (client.log.filterMap Output.heard).getLast?

theorem Client.told_eq (client : Client) :
    (tally client.log).told = client.heard.getD .disconnected := by
  obtain ⟨cache, log⟩ := client
  induction log using List.reverseRecOn with
  | nil => rfl
  | append_singleton log output induction =>
    rw [tally_append, heard, filterMap_append]
    cases output with
    | stateChange cur pre ret =>
      simp [Tally.next, Output.heard, getLast?_append]
    | _ => simpa [Tally.next, Output.heard, heard] using induction

theorem Client.Sound.heard_eq {client : Client} (sound : client.Sound)
    {state : ConnectState} (live : state ≠ .disconnected)
    (told : (expected client.cache).told = state) :
    client.heard = some state := by
  rw [← sound.tally, told_eq] at told
  cases held : client.heard with
  | none =>
    rw [held] at told
    exact absurd told.symm live
  | some heard =>
    rw [held] at told
    exact congrArg some told

namespace Client

def propertyOf (handle : UInt16) (value : Bytes) : Option PropertyInfo :=
  some { handle := handle, errorCode := errSuccess, value := value }

def Takes (client : Client) (cache : InfoCache) (env : Env)
    (handle : UInt16) (list : List PrivateInfo) : Prop :=
  (cache.stmState = .readProperty → client.step (env, .readProperty
        (propertyOf handle (getPropertyValue list)) errSuccess) =
      client.enterSetNtf env { cache with
        portInfoList := list
        propertyHandle := handle }) ∧
  (cache.stmState = .connected → client.step (env, .propertyChanged
        (propertyOf handle (getPropertyValue list))) =
      client.store { cache with portInfoList := list })

def Rejects (cache : InfoCache) (info : PropertyInfo) (ret : Errcode) : Prop :=
  ¬ (cache.stmState = .readProperty ∧ info.errorCode = errSuccess ∧
      info.value.length = 0) ∧
    (cache.stmState = .readProperty ∧ ret ≠ errSuccess ∨
      info.value.length < 2 ∨ valueChecked info.value = false)

def arrival (cache : InfoCache) (info : PropertyInfo) (ret : Errcode) :
    Event :=
  if cache.stmState = .readProperty then .readProperty (some info) ret
  else .propertyChanged (some info)

/-- The list is kept as long as there is an entry, and the user knows how the
attempt has ended. -/
def Declined (cache : InfoCache) (after : Client) : Prop :=
  (∀ kept, after.cache = some kept → kept.portInfoList = cache.portInfoList) ∧
      after.heard ≠ some .connecting

theorem enterSetNtf_ne (env : Env) (client : Client) (cache : InfoCache) :
    client ≠ client.enterSetNtf env cache := by
  have asked : client.log.length <
      (client.enterSetNtf env cache).log.length := by
    unfold enterSetNtf request
    split
    · simp [switchToDisconnecting, switchToDisconnected, remove, emit, store]
    · simp [emit, store]
  exact fun same => absurd (congrArg (·.log.length) same) asked.ne

variable {cache : InfoCache} {client : Client} {env : Env}

section

variable (sound : client.Sound) (held : client.cache = some cache)
  (takes : cache.stmState = .readProperty ∨ cache.stmState = .connected)
include sound held takes

theorem takes_iff {handle : UInt16} {list : List PrivateInfo}
    (published : Published list) :
    client.Takes cache env handle list ↔ list.length ≤ clientMaxNum := by
  have bounded := sound.bounded cache held
  have long : ¬ (getPropertyValue list).length < 2 := by
    rw [length_getPropertyValue]
    omega
  have full : ¬ (getPropertyValue list).length = 0 := by omega
  have checked := valueChecked_getPropertyValue published
  have infos := valueInfos_getPropertyValue published
  unfold InfoCache.Bounded at bounded
  rcases takes with now | now <;> simp only [now] at bounded
  · have read : client.step (env, .readProperty
        (propertyOf handle (getPropertyValue list)) errSuccess) =
          if list.length ≤ clientMaxNum then
            client.enterSetNtf env { cache with
              portInfoList := list
              propertyHandle := handle }
          else client := by
      simp [step, held, dispatch, now, propertyOf, onReadProperty, full, long,
        checked, infos, bounded]
    simp only [Takes, now, read, true_imp_iff, reduceCtorEq, false_imp_iff,
      and_true, ite_eq_left_iff]
    refine ⟨fun same => ?_, fun few many => absurd few many⟩
    by_contra many
    exact enterSetNtf_ne _ _ _ (same many)
  · have changed : client.step (env, .propertyChanged
        (propertyOf handle (getPropertyValue list))) =
          if list.length ≤ clientMaxNum then
            client.store { cache with portInfoList := list }
          else client := by
      simp [step, held, dispatch, now, propertyOf, onPropertyChanged, long,
        checked, infos]
    simp only [Takes, now, changed, true_imp_iff, reduceCtorEq,
      false_imp_iff, true_and, ite_eq_left_iff]
    refine ⟨fun same => ?_, fun few many => absurd few many⟩
    by_contra many
    have kept := held.symm.trans (congrArg Client.cache (same many))
    have listed : cache.portInfoList = list :=
      congrArg InfoCache.portInfoList (Option.some.inj kept)
    exact many (listed ▸ bounded)

theorem declined_iff {info : PropertyInfo} {ret : Errcode}
    (rejects : Rejects cache info ret) :
    Declined cache (client.step (env, arrival cache info ret)) ↔
      (cache.stmState = .readProperty →
        ret ≠ errSuccess ∨ info.value.length < 2) := by
  obtain ⟨full, rejected⟩ := rejects
  rcases takes with now | now
  · simp only [arrival, now, if_true, step, held, dispatch, onReadProperty,
      true_imp_iff]
    rw [if_neg (by simpa [now] using full)]
    split
    next failed =>
      refine iff_of_true ⟨fun _ gone => ?_, fun heard => ?_⟩ failed
      · cases gone
      have told : tally client.log =
          { told := .connecting, registered := true } := by
        simp [sound.tally, held, expected, now]
      have ended : (client.switchToDisconnecting cache .connecting
          info.errorCode).Sound :=
        sound_switchToDisconnecting told (.inl rfl)
      have last := congrArg Tally.told ended.tally
      rw [told_eq, heard] at last
      cases last
    next read =>
      simp only [not_or] at read
      have unchecked := (rejected.resolve_left fun failed =>
        read.1 failed.2).resolve_left read.2
      rw [unchecked]
      exact iff_of_false (fun declined => declined.2
        (sound.heard_eq (by decide) (by simp [held, expected, now])))
        (not_or.mpr read)
  · have kept : client.step (env, arrival cache info ret) = client := by
      simp only [arrival, now, step, held, dispatch, onPropertyChanged,
        reduceCtorEq, if_false]
      simp only [now, reduceCtorEq, false_and, false_or] at rejected
      rcases rejected with short | unchecked
      · rw [if_pos short]
      · rw [unchecked, if_neg Bool.false_ne_true, ite_self]
    rw [kept]
    refine iff_of_true ⟨?_, ?_⟩ (by simp [now])
    · intro entry same
      rw [← Option.some.inj (held.symm.trans same)]
    · have heard : client.heard = some .connected :=
        sound.heard_eq (by simp) (by rw [held, expected, if_pos now])
      rw [heard]
      simp

end

/-- The list of the server reaches a client exactly while the client takes as
many entries.  What a client rejects is declined unless it was read with
success and holds a count. -/
theorem takes_and_declines (calls : List (ServerEnv × ServerCall))
    (events : List (Env × Event)) (env : Env) (handle : UInt16)
    {cache : InfoCache} (held : (events.foldl step {}).cache = some cache)
    (takes : cache.stmState = .readProperty ∨ cache.stmState = .connected) :
    Published (calls.foldl serverStep []) ∧
      ((events.foldl step {}).Takes cache env handle
          (calls.foldl serverStep []) ↔
        (calls.foldl serverStep []).length ≤ clientMaxNum) ∧
      ∀ info ret, Rejects cache info ret →
        (Declined cache ((events.foldl step {}).step
            (env, arrival cache info ret)) ↔
          (cache.stmState = .readProperty →
            ret ≠ errSuccess ∨ info.value.length < 2)) := by
  have published := published_run calls
  have sound := sound_run events
  exact ⟨published, takes_iff sound held takes published,
    fun _ _ => declined_iff sound held takes⟩

def portAt (index : Nat) : PrivateInfo where
  portId := 1
  manufactureId := 2
  uuid := #v[UInt8.ofNat index, 0, 0, 0, 0, 0, 0, 0, 0, 0, 0, 0, 0, 0, 0, 0]

def manyPorts (count : Nat) : List (ServerEnv × ServerCall) :=
  (List.range count).map fun index => ({}, .addByUuid (portAt index))

theorem foldl_manyPorts {count : Nat} (bound : count ≤ 51) :
    (manyPorts count).foldl serverStep [] = (List.range count).map portAt := by
  induction count with
  | zero => rfl
  | succ count induction =>
    have fresh : findUuid (portAt count).uuid
        ((List.range count).map portAt) = none := by
      apply findIdx?_eq_none_iff.mpr
      refine forall_mem_map.mpr fun index within => ?_
      apply decide_eq_false
      intro same
      have first : UInt8.ofNat index = UInt8.ofNat count :=
        congrArg (fun uuid : Uuid => uuid[0]) same
      have numbers := congrArg UInt8.toNat first
      rw [UInt8.toNat_ofNat', UInt8.toNat_ofNat'] at numbers
      have := mem_range.mp within
      omega
    have longer : manyPorts (count + 1) =
        manyPorts count ++ [(⟨true, true, true⟩, .addByUuid (portAt count))] := by
      unfold manyPorts
      rw [range_succ, map_append, map_singleton]
    rw [longer, foldl_concat, induction (by omega)]
    change (addByUuid {} (portAt count) _).1 = _
    unfold addByUuid ServerEnv.publish
    rw [fresh, range_succ, map_append]
    have room : count < serverMaxNum := by
      unfold serverMaxNum
      omega
    have fits : (count + 1) * infoLen + 2 ≤ maxValueLen := by
      unfold infoLen maxValueLen
      omega
    simp [ServerEnv.updates, length_getPropertyValue, fits,
      Nat.not_le.mpr room]

def reading : List (Env × Event) :=
  [({}, .userConnect), ({}, .registerApp 3),
    ({}, .stateChanged .connected errSuccess),
    ({}, .getService [{ properties := some [(portPropertyStdUuid, 7)] }])]

def readingCache : InfoCache :=
  { appId := 3, stmState := .readProperty }

theorem takes_and_declines_reading :
    (reading.foldl step {}).cache = some readingCache ∧
      (reading.foldl step {}).Takes readingCache {} 7
        ((manyPorts 2).foldl serverStep []) := by
  have held : (reading.foldl step {}).cache = some readingCache := by
    decide
  have all := takes_and_declines (manyPorts 2) reading {} 7 held (.inl rfl)
  exact ⟨held, all.2.1.mpr (by decide +kernel)⟩

theorem takes_manyPorts :
    ((manyPorts 21).foldl serverStep []).length = 21 ∧
      (reading.foldl step {}).step ({}, .readProperty (propertyOf 7
        (getPropertyValue ((manyPorts 21).foldl serverStep [])))
          errSuccess) = reading.foldl step {} ∧
      (reading.foldl step {}).heard = some .connecting := by
  rw [foldl_manyPorts (by decide)]
  decide +kernel

end Client

end NearLink.Port
