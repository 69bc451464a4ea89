import Mathlib.Data.List.Perm.Basic
import NearLink.Sdf.Buff

/-!
# Port server

The list of `port_server.c` and the property value that publishes it.  Words
are low byte first.  The server is enabled, so that the list exists.
-/

namespace NearLink.Port

open Sdf

abbrev Uuid := Vector UInt8 16

open List hiding getElem?_eq_some_iff

structure PrivateInfo where
  portId : UInt16
  manufactureId : UInt16
  uuid : Uuid
  deriving DecidableEq

/-- `NLSTK_PORT_MAX_NUM` -/
def serverMaxNum : Nat := 0xFF

/-- `SSAP_MAX_VALUE_LENTH` -/
def maxValueLen : Nat := 1024

/-- `sizeof(PortPrivateInfo_S)` -/
def infoLen : Nat := 20

def wordBytes (word : UInt16) : Bytes :=
  [UInt8.ofNat word.toNat, UInt8.ofNat (word.toNat / 256)]

def wordAt (buf : Bytes) : UInt16 :=
  UInt16.ofNat ((buf.getD 0 0).toNat + 256 * (buf.getD 1 0).toNat)

def PrivateInfo.bytes (info : PrivateInfo) : Bytes :=
  wordBytes info.portId ++ wordBytes info.manufactureId ++ info.uuid.toList

def getPropertyValue (list : List PrivateInfo) : Bytes :=
  wordBytes (UInt16.ofNat list.length) ++ list.flatMap PrivateInfo.bytes

structure ServerEnv where
  allocated : Bool := true
  /-- `PortGetPropertyValue` has memory. -/
  value : Bool := true
  /-- The task of `NLSTK_SsapServerUpdatePropertyValue` is posted. -/
  posted : Bool := true

def ServerEnv.updates (env : ServerEnv) (list : List PrivateInfo) : Bool :=
  env.value && decide ((getPropertyValue list).length ≤ maxValueLen) &&
    env.posted

/-- `PortUuidCompFunc` in `SDF_VectorFindFirstByStartIndex` -/
def findUuid (uuid : Uuid) (list : List PrivateInfo) : Option Nat :=
  list.findIdx? fun info => info.uuid = uuid

/-- `PortSwapPropertyValueByUuid` on the entry. -/
def PrivateInfo.swap (param info : PrivateInfo) : PrivateInfo :=
  { info with
    portId := param.portId
    manufactureId := param.manufactureId }

/-- The end of both calls: the value of the built list is published, or the
list is put back.  The second component is the value that SSAP was handed. -/
def ServerEnv.publish (env : ServerEnv) (built restored : List PrivateInfo) :
    List PrivateInfo × Option Bytes :=
  if env.updates built then (built, some (getPropertyValue built))
  else (restored, none)

/-- `PortAddByUuidInner`.  A second swap puts the old numbers back. -/
def addByUuid (env : ServerEnv) (param : PrivateInfo)
    (list : List PrivateInfo) : List PrivateInfo × Option Bytes :=
  match findUuid param.uuid list with
  | some index => env.publish (list.modify index param.swap) list
  | none =>
    if serverMaxNum ≤ list.length then (list, none)
    else
      let added := if env.allocated then list ++ [param] else list
      env.publish added added.dropLast

/-- `PortDeleteByUuidInner`.  An entry whose removal is not published returns
to the end. -/
def deleteByUuid (env : ServerEnv) (uuid : Uuid) (list : List PrivateInfo) :
    List PrivateInfo × Option Bytes :=
  match findUuid uuid list with
  | some index =>
    if env.allocated then
      let removed := list.eraseIdx index
      env.publish removed (removed ++ list[index]?.toList)
    else (list, none)
  | none => (list, none)

inductive ServerCall where
  | addByUuid (param : PrivateInfo)
  | deleteByUuid (uuid : Uuid)

/-- A call, with the property value that it publishes. -/
def serve (env : ServerEnv) (list : List PrivateInfo) :
    ServerCall → List PrivateInfo × Option Bytes
  | .addByUuid param => addByUuid env param list
  | .deleteByUuid uuid => deleteByUuid env uuid list

def serverStep (list : List PrivateInfo) (call : ServerEnv × ServerCall) :
    List PrivateInfo :=
  (serve call.1 list call.2).1

structure Published (list : List PrivateInfo) : Prop where
  unique : (list.map PrivateInfo.uuid).Nodup
  bound : list.length ≤ serverMaxNum

variable {list : List PrivateInfo}

theorem Published.sublist {kept : List PrivateInfo} (published : Published list)
    (sublist : kept.Sublist list) :
    Published kept :=
  ⟨published.unique.sublist (sublist.map _),
    sublist.length_le.trans published.bound⟩

theorem map_swap (param : PrivateInfo) (list : List PrivateInfo) (index : Nat) :
    (list.modify index param.swap).map PrivateInfo.uuid =
      list.map PrivateInfo.uuid := by
  induction list generalizing index with
  | nil => cases index <;> rfl
  | cons info list induction =>
    cases index with
    | zero => rfl
    | succ index => simp [induction]

theorem Published.publish {built restored : List PrivateInfo}
    (made : Published built) (kept : Published restored) (env : ServerEnv) :
    Published (env.publish built restored).1 := by
  unfold ServerEnv.publish
  split
  · exact made
  · exact kept

theorem Published.add (published : Published list) (env : ServerEnv)
    (param : PrivateInfo) :
    Published (addByUuid env param list).1 := by
  unfold addByUuid
  split
  next index _ =>
    have swapped : Published (list.modify index param.swap) :=
      ⟨by rw [map_swap]; exact published.unique, by simpa using published.bound⟩
    exact swapped.publish published env
  next absent =>
    have fresh : param.uuid ∉ list.map PrivateInfo.uuid := by
      simpa [findUuid, findIdx?_eq_none_iff] using absent
    split
    · exact published
    next room =>
      have added : Published (if env.allocated then list ++ [param] else list) := by
        split
        · refine ⟨?_, by simpa using Nat.succ_le_of_lt (not_le.mp room)⟩
          rw [map_append, nodup_append]
          refine ⟨published.unique, by simp, ?_⟩
          rintro uuid found _ new rfl
          rw [map_singleton, mem_singleton] at new
          exact fresh (new ▸ found)
        · exact published
      exact added.publish (added.sublist (dropLast_sublist _)) env

theorem Published.delete (published : Published list) (env : ServerEnv)
    (uuid : Uuid) :
    Published (deleteByUuid env uuid list).1 := by
  unfold deleteByUuid
  split
  next index _ =>
    split
    · have removed := published.sublist (eraseIdx_sublist list index)
      refine removed.publish ?_ env
      cases found : list[index]? with
      | none => simpa using removed
      | some info =>
        have restored : (list.eraseIdx index ++ [info]).Perm list := by
          obtain ⟨small, rfl⟩ := getElem?_eq_some_iff.mp found
          exact (perm_append_singleton _ _).trans
            (getElem_cons_eraseIdx_perm small)
        exact ⟨(restored.map _).nodup_iff.mpr published.unique,
          restored.length_eq ▸ published.bound⟩
    · exact published
  · exact published

theorem published_run (calls : List (ServerEnv × ServerCall)) :
    Published (calls.foldl serverStep []) := by
  have step : ∀ (list : List PrivateInfo), Published list →
      Published (calls.foldl serverStep list) := by
    induction calls with
    | nil => exact fun _ published => published
    | cons call calls induction =>
      intro list published
      obtain ⟨env, call⟩ := call
      cases call with
      | addByUuid param => exact induction _ (published.add env param)
      | deleteByUuid uuid => exact induction _ (published.delete env uuid)
  exact step [] ⟨nodup_nil, Nat.zero_le _⟩

end NearLink.Port
