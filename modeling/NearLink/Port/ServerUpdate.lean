import NearLink.Port.Server

/-!
# Atomic updates of the port list

A call of the server either publishes the list it asks for or leaves the list
as it was, unless the new entry has no memory or a deleted entry does not stand
last.
-/

namespace NearLink.Port

open Sdf List

namespace ServerCall

def uuid : ServerCall → Uuid
  | addByUuid param => param.uuid
  | deleteByUuid uuid => uuid

/-- The list with the entry replaced in place, appended or removed. -/
def wanted (list : List PrivateInfo) : ServerCall → List PrivateInfo
  | addByUuid param =>
    match findUuid param.uuid list with
    | some index => list.set index param
    | none => list ++ [param]
  | deleteByUuid uuid =>
    match findUuid uuid list with
    | some index => list.eraseIdx index
    | none => list

/-- What a call publishes is the list it asks for, which it leaves behind; a
call that publishes nothing leaves the list as it was. -/
def Atomic (env : ServerEnv) (list : List PrivateInfo) (call : ServerCall) :
    Prop :=
  match (serve env list call).2 with
  | none => serverStep list (env, call) = list
  | some value =>
    serverStep list (env, call) = call.wanted list ∧
      value = getPropertyValue (call.wanted list)

/-- The entries of the other uuids stay, in their order. -/
def SparesOthers (env : ServerEnv) (list : List PrivateInfo)
    (call : ServerCall) : Prop :=
  (serverStep list (env, call)).filter (fun info => info.uuid ≠ call.uuid) =
    list.filter fun info => info.uuid ≠ call.uuid

/-- A new entry has memory, and an entry that is deleted stands last when its
removal is not published. -/
def Prudent (env : ServerEnv) (list : List PrivateInfo) : ServerCall → Prop
  | addByUuid param =>
    findUuid param.uuid list = none → list.length < serverMaxNum →
      env.allocated ∨ list = [] ∧ env.updates [] = false
  | deleteByUuid uuid =>
    ∀ index, findUuid uuid list = some index → env.allocated →
      env.updates (list.eraseIdx index) = false →
      ∀ info ∈ list.drop index, list[index]? = some info

end ServerCall

variable {list : List PrivateInfo} {uuid : Uuid} {index : Nat}

theorem findUuid_get (found : findUuid uuid list = some index) :
    ∃ small : index < list.length, list[index].uuid = uuid := by
  obtain ⟨small, same, _⟩ := findIdx?_eq_some_iff_getElem.mp found
  exact ⟨small, by simpa using same⟩

theorem modify_swap {param : PrivateInfo}
    (found : findUuid param.uuid list = some index) :
    list.modify index param.swap = list.set index param := by
  obtain ⟨small, same⟩ := findUuid_get found
  rw [modify_eq_set_getElem?, getElem?_eq_getElem small]
  simp [PrivateInfo.swap, same]

theorem filter_without {keep : PrivateInfo → Bool}
    (small : index < list.length) (out : keep list[index] = false) :
    list.filter keep =
      (list.take index).filter keep ++ (list.drop (index + 1)).filter keep := by
  conv_lhs => rw [← take_append_drop index list, drop_eq_getElem_cons small]
  rw [filter_append, filter_cons_of_neg (by simp [out])]

theorem append_singleton_iff {α : Type} {value : α} {rest : List α} :
    rest ++ [value] = value :: rest ↔ ∀ other ∈ rest, value = other := by
  induction rest generalizing value with
  | nil => simp
  | cons head rest induction =>
    rw [cons_append, List.cons.injEq, forall_mem_cons, eq_comm]
    refine and_congr_right fun same => ?_
    rw [same, induction]

theorem eraseIdx_append_iff (small : index < list.length) :
    list.eraseIdx index ++ list[index]?.toList = list ↔
      ∀ info ∈ list.drop index, list[index]? = some info := by
  have parts : list = list.take index ++ list[index] :: list.drop (index + 1) := by
    rw [← drop_eq_getElem_cons small, take_append_drop]
  rw [eraseIdx_eq_take_drop_succ, getElem?_eq_getElem small,
    Option.toList_some, append_assoc]
  conv_lhs => rhs; rw [parts]
  rw [append_cancel_left_eq, append_singleton_iff,
    drop_eq_getElem_cons small, forall_mem_cons]
  simp only [Option.some.injEq, true_and]

namespace ServerCall

variable (env : ServerEnv) (list : List PrivateInfo)

theorem atomic_publish {call : ServerCall} {built restored : List PrivateInfo}
    (served : serve env list call = env.publish built restored) :
    call.Atomic env list ↔
      if env.updates built then built = call.wanted list else restored = list := by
  unfold Atomic serverStep
  dsimp only
  rw [served, ServerEnv.publish]
  cases env.updates built with
  | true => exact and_iff_left_of_imp fun same => congrArg getPropertyValue same
  | false => exact Iff.rfl

theorem atomic_silent {call : ServerCall}
    (served : serve env list call = (list, none)) : call.Atomic env list := by
  simp [Atomic, serverStep, served]

theorem dropLast_eq_iff :
    list.dropLast = list ↔ list = [] := by
  constructor
  · intro same
    have lengths := congrArg List.length same
    rw [length_dropLast] at lengths
    exact eq_nil_of_length_eq_zero (by omega)
  · rintro rfl
    rfl

theorem atomic_add (param : PrivateInfo) :
    (addByUuid param).Atomic env list ↔ (addByUuid param).Prudent env list := by
  cases found : findUuid param.uuid list with
  | some index =>
    have served : serve env list (addByUuid param) =
        env.publish (list.modify index param.swap) list := by
      simp only [serve, Port.addByUuid, found]
    rw [atomic_publish env list served]
    simp [wanted, Prudent, found, modify_swap found]
  | none =>
    by_cases full : serverMaxNum ≤ list.length
    · refine iff_of_true (atomic_silent env list ?_) ?_
      · simp [serve, Port.addByUuid, found, full]
      · intro _ room
        omega
    · cases allocated : env.allocated with
      | true =>
        have served : serve env list (addByUuid param) = env.publish
            (list ++ [param]) (list ++ [param]).dropLast := by
          simp [serve, Port.addByUuid, found, full, allocated]
        rw [atomic_publish env list served]
        simp [wanted, Prudent, found, allocated]
      | false =>
        have served : serve env list (addByUuid param) =
            env.publish list list.dropLast := by
          simp [serve, Port.addByUuid, found, full, allocated]
        rw [atomic_publish env list served]
        have dropped : env.updates list = false ∧ list = [] ↔
            list = [] ∧ env.updates [] = false := by
          constructor
          · rintro ⟨refused, rfl⟩
            exact ⟨rfl, refused⟩
          · rintro ⟨rfl, refused⟩
            exact ⟨refused, rfl⟩
        simp [wanted, Prudent, found, allocated, Nat.lt_of_not_le full,
          dropLast_eq_iff, dropped]

theorem atomic_delete (uuid : Uuid) :
    (deleteByUuid uuid).Atomic env list ↔ (deleteByUuid uuid).Prudent env list := by
  cases found : findUuid uuid list with
  | none =>
    refine iff_of_true (atomic_silent env list ?_) (by simp [Prudent, found])
    simp [serve, Port.deleteByUuid, found]
  | some index =>
    cases allocated : env.allocated with
    | false =>
      refine iff_of_true (atomic_silent env list ?_) ?_
      · simp [serve, Port.deleteByUuid, found, allocated]
      · simp [Prudent, found, allocated]
    | true =>
      have served : serve env list (deleteByUuid uuid) = env.publish
          (list.eraseIdx index)
          (list.eraseIdx index ++ list[index]?.toList) := by
        simp [serve, Port.deleteByUuid, found, allocated]
      rw [atomic_publish env list served]
      have restored := eraseIdx_append_iff (findUuid_get found).1
      simp [wanted, Prudent, found, allocated, restored]

theorem Atomic.sparesOthers {call : ServerCall}
    (atomic : call.Atomic env list) : call.SparesOthers env list := by
  have spared : (call.wanted list).filter (fun info => info.uuid ≠ call.uuid) =
      list.filter fun info => info.uuid ≠ call.uuid := by
    cases call with
    | addByUuid param =>
      cases found : findUuid param.uuid list with
      | none => simp [wanted, found, uuid]
      | some index =>
        obtain ⟨small, same⟩ := findUuid_get found
        simp only [wanted, found]
        rw [set_eq_take_append_cons_drop, if_pos small,
          filter_without small (by simp [uuid, same])]
        simp [uuid]
    | deleteByUuid wanted =>
      cases found : findUuid wanted list with
      | none => simp only [ServerCall.wanted, found]
      | some index =>
        obtain ⟨small, same⟩ := findUuid_get found
        simp only [ServerCall.wanted, found]
        rw [eraseIdx_eq_take_drop_succ, filter_append,
          filter_without small (by simp [uuid, same])]
  unfold SparesOthers
  unfold Atomic at atomic
  split at atomic
  · rw [atomic]
  · rw [atomic.1, spared]

theorem atomic_iff (call : ServerCall) :
    call.Atomic env list ∧ call.SparesOthers env list ↔
      call.Prudent env list := by
  rw [and_iff_left_of_imp (Atomic.sparesOthers env list)]
  cases call with
  | addByUuid param => exact atomic_add env list param
  | deleteByUuid uuid => exact atomic_delete env list uuid

/-- A port without memory for its entry costs the last port its own. -/
theorem atomic_fails :
    ¬ ∀ env list call, Atomic env list call ∧ SparesOthers env list call := by
  intro all
  have spared := (all { allocated := false, posted := false }
    [⟨1, 1, .replicate 16 1⟩] (addByUuid ⟨2, 2, .replicate 16 2⟩)).2
  exact absurd spared (by unfold SparesOthers; decide)

end ServerCall

end NearLink.Port
