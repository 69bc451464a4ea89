import Mathlib.Algebra.Order.Ring.Nat
import Mathlib.Data.List.Perm.Basic
import Mathlib.Data.List.Nodup

/-!
# Lists of keyed records

A doubly linked list that is searched by an identifier: look up, change and
remove the first record with a key.  The lemmas say what each operation does to
later look-ups, to a projection of all records, and to the sum of a weight.
-/

namespace NearLink.Keyed

open List Bool

variable {Record Key Value : Type*} [DecidableEq Key]

section Operations

variable (key : Record → Key)

@[grind =] def lookup (wanted : Key) : List Record → Option Record
  | [] => none
  | record :: records =>
    if key record = wanted then some record else lookup wanted records

@[grind =] def modify (wanted : Key) (change : Record → Record) :
    List Record → List Record
  | [] => []
  | record :: records =>
    if key record = wanted then change record :: records
    else record :: modify wanted change records

@[grind =] def remove (wanted : Key) : List Record → List Record
  | [] => []
  | record :: records =>
    if key record = wanted then records
    else record :: remove wanted records

@[grind =] def ensure (wanted : Key) (fresh : Record) (records : List Record) :
    List Record :=
  match lookup key wanted records with
  | some _ => records
  | none => records ++ [fresh]

end Operations

variable {key : Record → Key} {wanted other : Key}
  {change next : Record → Record} {records older newer : List Record}
  {found : Record} {view : Record → Value} {property : Record → Prop}
  {Other Entry : Type*}

attribute [local simp] lookup modify remove

theorem lookup_eq_find? : lookup key wanted records =
    records.find? fun record => key record = wanted := by
  induction records with
  | nil => rfl
  | cons record records induction =>
    by_cases same : key record = wanted
    · simp [same]
    · simp [same, induction]

theorem remove_eq_eraseP : remove key wanted records =
    records.eraseP fun record => key record = wanted := by
  induction records with
  | nil => rfl
  | cons record records induction =>
    by_cases same : key record = wanted
    · simp [same]
    · simp [same, induction]

theorem lookup_key (located : lookup key wanted records = some found) :
    key found = wanted := by
  rw [lookup_eq_find?] at located
  simpa using find?_some located

theorem lookup_mem (located : lookup key wanted records = some found) :
    found ∈ records := by
  rw [lookup_eq_find?] at located
  exact mem_of_find?_eq_some located

theorem lookup_eq_none :
    lookup key wanted records = none ↔ wanted ∉ records.map key := by
  rw [lookup_eq_find?, find?_eq_none]
  simp

theorem lookup_of_mem (unique : (records.map key).Nodup)
    (member : found ∈ records) :
    lookup key (key found) records = some found := by
  induction records with
  | nil => cases member
  | cons record records induction =>
    rw [map_cons, nodup_cons] at unique
    rcases mem_cons.mp member with rfl | later
    · simp
    · have differs : key record ≠ key found := by
        intro equality
        apply unique.1
        rw [equality]
        exact mem_map_of_mem later
      simp [differs, induction unique.2 later]

/-- Look-ups do not see the order of a list without repeated keys. -/
theorem lookup_perm {shuffled : List Record} (permuted : shuffled.Perm records)
    (unique : (records.map key).Nodup) (wanted : Key) :
    lookup key wanted shuffled = lookup key wanted records := by
  have shuffledUnique : (shuffled.map key).Nodup :=
    (permuted.map key).nodup_iff.mpr unique
  cases located : lookup key wanted records with
  | none =>
    rw [lookup_eq_none] at located ⊢
    intro member
    exact located ((permuted.map key).mem_iff.mp member)
  | some found =>
    have member := permuted.mem_iff.mpr (lookup_mem located)
    rw [← lookup_key located]
    exact lookup_of_mem shuffledUnique member

theorem lookup_append_list (records others : List Record) :
    lookup key wanted (records ++ others) =
      (lookup key wanted records).or (lookup key wanted others) := by
  simp only [lookup_eq_find?, find?_append]

theorem lookup_append (records : List Record) (last : Record) :
    lookup key wanted (records ++ [last]) = (lookup key wanted records).or
        (if key last = wanted then some last else none) := by
  rw [lookup_append_list]
  rfl

theorem lookup_map (keeps : ∀ record, key (change record) = key record) :
    lookup key wanted (records.map change) =
      (lookup key wanted records).map change := by
  rw [lookup_eq_find?, lookup_eq_find?, find?_map]
  simp only [Function.comp_def, keeps]

section

variable (keeps : ∀ record, key (change record) = key record)
include keeps

theorem lookup_modify_self :
    lookup key wanted (modify key wanted change records) =
      (lookup key wanted records).map change := by
  induction records with
  | nil => rfl
  | cons record records induction =>
    by_cases same : key record = wanted
    · simp [keeps, same]
    · simp [same, induction]

theorem lookup_modify_ne (differs : other ≠ wanted) :
    lookup key other (modify key wanted change records) =
      lookup key other records := by
  induction records with
  | nil => rfl
  | cons record records induction =>
    by_cases same : key record = wanted
    · simp [keeps, same, differs.symm]
    · simp [same, induction]

end

theorem map_modify_of_lookup
    (keeps : ∀ record, lookup key wanted records = some record →
      view (change record) = view record) :
    (modify key wanted change records).map view = records.map view := by
  induction records with
  | nil => rfl
  | cons record records induction =>
    by_cases same : key record = wanted
    · have kept := keeps record (by simp [same])
      simp [same, kept]
    · have later := induction fun found located =>
        keeps found (by simp [same, located])
      simp [same, later]

theorem map_modify (keeps : ∀ record, view (change record) = view record) :
    (modify key wanted change records).map view = records.map view :=
  map_modify_of_lookup fun record _ => keeps record

theorem length_modify :
    (modify key wanted change records).length = records.length := by
  have kept := @map_modify _ _ Unit _ key wanted change records (fun _ => ())
    fun _ => rfl
  simpa using congrArg List.length kept

section

variable (keeps : ∀ record, key (change record) = key record)
include keeps

theorem modify_modify :
    modify key wanted next (modify key wanted change records) =
      modify key wanted (next ∘ change) records := by
  induction records with
  | nil => rfl
  | cons record records induction =>
    by_cases same : key record = wanted
    · simp [keeps, same]
    · simp [same, induction]

theorem modify_comm (keepsNext : ∀ record, key (next record) = key record)
    (differs : other ≠ wanted) :
    modify key other next (modify key wanted change records) =
      modify key wanted change (modify key other next records) := by
  induction records with
  | nil => rfl
  | cons record records induction =>
    by_cases same : key record = wanted
    · simp [keeps, same, differs.symm]
    · by_cases named : key record = other
      · simp [keepsNext, named, differs]
      · simp [same, named, induction]

end

theorem modify_map (keepsNext : ∀ record, key (next record) = key record)
    (commutes : ∀ record, key record = wanted →
      change (next record) = next (change record)) :
    modify key wanted change (records.map next) =
      (modify key wanted change records).map next := by
  induction records with
  | nil => rfl
  | cons record records induction =>
    by_cases same : key record = wanted
    · simp [keepsNext, same, commutes record same]
    · simp [keepsNext, same, induction]

theorem forall_modify (all : ∀ record ∈ records, property record)
    (changed : ∀ record, lookup key wanted records = some record →
      property (change record)) :
    ∀ record ∈ modify key wanted change records, property record := by
  induction records with
  | nil => simp
  | cons record records induction =>
    have tail : ∀ later ∈ records, property later := fun later member =>
      all later (.tail _ member)
    by_cases same : key record = wanted
    · intro later member
      simp only [modify, same, if_true, mem_cons] at member
      rcases member with rfl | member
      · exact changed record (by simp [same])
      · exact tail later member
    · intro later member
      simp only [modify, same, if_false, mem_cons] at member
      rcases member with rfl | member
      · exact all later (by simp)
      · apply induction tail
        · intro earlier located
          apply changed earlier
          simp [same, located]
        · exact member

theorem mem_modify (unique : (records.map key).Nodup) :
    found ∈ modify key wanted change records ↔
      (found ∈ records ∧ key found ≠ wanted) ∨
        ∃ record ∈ records, key record = wanted ∧ change record = found := by
  induction records with
  | nil => simp
  | cons record records induction =>
    by_cases same : key record = wanted <;> grind

theorem split_of_lookup (located : lookup key wanted records = some found) :
    ∃ before after, records = before ++ found :: after ∧
      lookup key wanted before = none ∧
      remove key wanted records = before ++ after ∧
      ∀ change, modify key wanted change records =
        before ++ change found :: after := by
  induction records with
  | nil => cases located
  | cons record records induction =>
    by_cases same : key record = wanted
    · simp only [lookup, same, if_true, Option.some.injEq] at located
      subst located
      exact ⟨[], records, rfl, rfl, if_pos same, fun _ => if_pos same⟩
    · simp only [lookup, same, if_false] at located
      obtain ⟨before, after, whole, absent, rest, changed⟩ :=
        induction located
      exact ⟨record :: before, after, by rw [whole]; rfl,
        by simp [same, absent], by simp [same, rest],
        fun _ => by simp [same, changed]⟩

theorem sum_modify (weight : Record → Nat) (change : Record → Record)
    (located : lookup key wanted records = some found) :
    ((modify key wanted change records).map weight).sum + weight found =
      (records.map weight).sum + weight (change found) := by
  obtain ⟨before, after, whole, _, _, changed⟩ := split_of_lookup located
  rw [changed, whole]
  simp only [map_append, map_cons, sum_append, sum_cons]
  omega

theorem modify_of_lookup (same : ∀ record,
      lookup key wanted records = some record → change record = record) :
    modify key wanted change records = records := by
  have kept := @map_modify_of_lookup _ _ _ _ key wanted change records id same
  rwa [map_id, map_id] at kept

theorem modify_absent (absent : lookup key wanted records = none) :
    modify key wanted change records = records :=
  modify_of_lookup (by simp [absent])

theorem modify_congr (same : ∀ record, lookup key wanted records = some record →
      change record = next record) :
    modify key wanted change records = modify key wanted next records := by
  induction records with
  | nil => rfl
  | cons record records induction =>
    by_cases here : key record = wanted
    · have equal := same record (by simp [here])
      simp [here, equal]
    · have later := induction fun found located =>
        same found (by simp [here, located])
      simp [here, later]

theorem modify_eq_self (same : ∀ record ∈ records, change record = record) :
    modify key wanted change records = records :=
  modify_of_lookup fun record located => same record (lookup_mem located)

theorem remove_sublist : (remove key wanted records).Sublist records := by
  rw [remove_eq_eraseP]
  exact eraseP_sublist

theorem lookup_remove_ne (differs : other ≠ wanted) :
    lookup key other (remove key wanted records) =
      lookup key other records := by
  induction records with
  | nil => rfl
  | cons record records induction =>
    by_cases same : key record = wanted
    · simp [same, differs.symm]
    · simp [same, induction]

theorem lookup_remove_self (unique : (records.map key).Nodup) :
    lookup key wanted (remove key wanted records) = none := by
  induction records with
  | nil => rfl
  | cons record records induction =>
    rw [map_cons, nodup_cons] at unique
    by_cases same : key record = wanted
    · simpa [same] using lookup_eq_none.mpr unique.1
    · simp [same, induction unique.2]

theorem remove_map (keepsNext : ∀ record, key (next record) = key record) :
    remove key wanted (records.map next) =
      (remove key wanted records).map next := by
  rw [remove_eq_eraseP, remove_eq_eraseP, eraseP_map]
  simp only [Function.comp_def, keepsNext]

theorem remove_modify (keeps : ∀ record, key (change record) = key record) :
    remove key wanted (modify key wanted change records) =
      remove key wanted records := by
  induction records with
  | nil => rfl
  | cons record records induction =>
    by_cases same : key record = wanted
    · simp [keeps, same]
    · simp [same, induction]

section

variable (unique : (records.map key).Nodup)
include unique

theorem mem_remove :
    found ∈ remove key wanted records ↔
      found ∈ records ∧ key found ≠ wanted := by
  constructor
  · intro member
    refine ⟨remove_sublist.subset member, ?_⟩
    rintro rfl
    exact lookup_eq_none.mp (lookup_remove_self unique) (mem_map_of_mem member)
  · rintro ⟨member, differs⟩
    have located := lookup_of_mem unique member
    rw [← lookup_remove_ne differs] at located
    exact lookup_mem located

theorem remove_eq_filter :
    remove key wanted records =
      records.filter fun record => key record ≠ wanted := by
  induction records with
  | nil => rfl
  | cons record records induction =>
    rw [map_cons, nodup_cons] at unique
    by_cases same : key record = wanted
    · have others : ∀ later ∈ records, key later ≠ wanted := by
        intro later member equality
        apply unique.1
        rw [same, ← equality]
        exact mem_map_of_mem member
      simpa [same] using (filter_eq_self.mpr (by simpa using others)).symm
    · simp [same, induction unique.2]

theorem filter_flatMap_remove {part : Record → List Entry} {keep : Entry → Bool}
    (kept : ∀ record, ∀ entry ∈ part record,
      keep entry = decide (key record ≠ wanted)) :
    (records.flatMap part).filter keep =
      (remove key wanted records).flatMap part := by
  rw [remove_eq_filter unique, filter_flatMap]
  clear unique
  induction records with
  | nil => rfl
  | cons record records induction =>
    rw [flatMap_cons, induction, filter_congr (kept record)]
    by_cases same : key record = wanted <;> simp [same]

end

section

variable (weight : Record → Nat)
  (located : lookup key wanted records = some found)
include located

theorem sum_remove :
    ((remove key wanted records).map weight).sum + weight found =
      (records.map weight).sum := by
  obtain ⟨before, after, whole, _, rest, _⟩ := split_of_lookup located
  rw [rest, whole]
  simp only [map_append, map_cons, sum_append, sum_cons]
  omega

theorem weight_le_sum :
    weight found ≤ (records.map weight).sum := by
  have parts := sum_remove weight located
  omega

end

theorem remove_append_absent {others : List Record}
    (absent : lookup key wanted records = none) :
    remove key wanted (records ++ others) =
      records ++ remove key wanted others := by
  rw [lookup_eq_find?, find?_eq_none] at absent
  rw [remove_eq_eraseP, remove_eq_eraseP, eraseP_append_right _ absent]

theorem remove_absent (absent : lookup key wanted records = none) :
    remove key wanted records = records := by
  simpa using @remove_append_absent _ _ _ _ _ _ [] absent

theorem remove_of_found [DecidableEq Other] {name : Record → Other}
    (unique : (records.map name).Nodup)
    (located : lookup key wanted records = some found) :
    remove name (name found) records = remove key wanted records := by
  obtain ⟨before, after, whole, _, rest, _⟩ := split_of_lookup located
  rw [rest, whole]
  rw [whole, map_append, map_cons, nodup_middle, nodup_cons] at unique
  have absent : lookup name (name found) before = none := by
    rw [lookup_eq_none]
    intro member
    exact unique.1 (mem_append_left _ member)
  rw [remove_append_absent absent]
  simp

theorem perm_of_lookup (located : lookup key wanted records = some found) :
    records.Perm (found :: remove key wanted records) := by
  obtain ⟨before, after, whole, _, rest, _⟩ := split_of_lookup located
  rw [rest, whole]
  exact perm_middle

section

variable (change : Record → Record)
  (located : lookup key wanted records = some found)
include located

theorem modify_perm_of_lookup :
    (modify key wanted change records).Perm
      (change found :: remove key wanted records) := by
  obtain ⟨before, after, _, _, rest, changed⟩ := split_of_lookup located
  rw [rest, changed]
  exact perm_middle

theorem lookup_modify_of_found (keeps : key (change found) = wanted)
    (other : Key) :
    lookup key other (modify key wanted change records) =
      if other = wanted then some (change found)
      else lookup key other records := by
  obtain ⟨before, after, whole, absent, _, changed⟩ := split_of_lookup located
  rw [changed, whole, lookup_append_list, lookup_append_list]
  by_cases asked : other = wanted
  · simp [asked, absent, keeps]
  · simp [asked, keeps, lookup_key located, Ne.symm asked]

end

theorem modify_of_found [DecidableEq Other] {name : Record → Other}
    (change : Record → Record) (unique : (records.map name).Nodup)
    (located : lookup key wanted records = some found) :
    modify name (name found) change records =
      modify key wanted change records := by
  induction records with
  | nil => cases located
  | cons record records induction =>
    rw [map_cons, nodup_cons] at unique
    by_cases same : key record = wanted
    · simp only [lookup, same, if_true, Option.some.injEq] at located
      subst located
      simp [same]
    · simp only [lookup, same, if_false] at located
      have differs : name record ≠ name found := by
        intro equality
        apply unique.1
        rw [equality]
        exact mem_map_of_mem (lookup_mem located)
      simp [same, differs, induction unique.2 located]

omit [DecidableEq Key] in
theorem filter_perm_rest {part rest : List Record} {keep : Record → Bool}
    (unique : (records.map key).Nodup) (split : records.Perm (part ++ rest))
    (drops : ∀ record, keep record = false ↔ key record ∈ part.map key) :
    (records.filter keep).Perm rest := by
  have apart : ((part ++ rest).map key).Nodup :=
    (split.map key).nodup_iff.mp unique
  rw [map_append, nodup_append] at apart
  have dropped : part.filter keep = [] := by
    rw [filter_eq_nil_iff]
    intro record member
    rw [(drops record).mpr (mem_map_of_mem member)]
    exact false_ne_true
  have kept : rest.filter keep = rest := by
    rw [filter_eq_self]
    intro record member
    by_contra gone
    have inPart := (drops record).mp (eq_false_iff.mpr gone)
    exact apart.2.2 _ inPart _ (mem_map_of_mem member) rfl
  have filtered := split.filter keep
  rwa [filter_append, dropped, kept, nil_append] at filtered

omit [DecidableEq Key] in
theorem eq_of_removed {first second : Record} {before after : List Record}
    (whole : before ++ first :: after = older ++ second :: newer)
    (rest : before ++ after = older ++ newer) : first = second := by
  classical
  have shuffled : (first :: (before ++ after)).Perm
      (second :: (before ++ after)) := by
    calc (first :: (before ++ after)).Perm (before ++ first :: after) :=
          perm_middle.symm
      _ = older ++ second :: newer := whole
      List.Perm _ (second :: (older ++ newer)) := perm_middle
      _ = second :: (before ++ after) := by rw [rest]
  have counted := shuffled.count_eq first
  by_contra differs
  rw [count_cons_self, count_cons_of_ne (Ne.symm differs)] at counted
  omega

theorem remove_around (differs : key found ≠ wanted) :
    ∃ before after, remove key wanted (older ++ found :: newer) =
        before ++ found :: after ∧
      ∀ other, other ≠ wanted →
        lookup key other before = lookup key other older := by
  induction older with
  | nil =>
    exact ⟨[], remove key wanted newer, by simp [differs],
      fun _ _ => rfl⟩
  | cons record older induction =>
    by_cases same : key record = wanted
    · refine ⟨older, newer, by simp [same], ?_⟩
      intro other foreign
      have unseen : ¬ key record = other := by
        rw [same]
        exact foreign.symm
      simp [unseen]
    · obtain ⟨before, after, whole, kept⟩ := induction
      refine ⟨record :: before, after, by simp [same, whole], ?_⟩
      intro other foreign
      simp [kept other foreign]

omit [DecidableEq Key] in
theorem nodup_append_singleton {last : Record}
    (unique : (records.map key).Nodup) (new : key last ∉ records.map key) :
    ((records ++ [last]).map key).Nodup := by
  rw [map_append, map_singleton]
  apply nodup_append.mpr
  refine ⟨unique, nodup_singleton _, ?_⟩
  intro earlier member other single equality
  rw [mem_singleton.mp single] at equality
  exact new (equality ▸ member)

variable {fresh : Record}

section

variable (named : key fresh = wanted)
include named

theorem lookup_ensure_self :
    lookup key wanted (ensure key wanted fresh records) =
      some ((lookup key wanted records).getD fresh) := by
  unfold ensure
  cases located : lookup key wanted records with
  | none => simp [lookup_append, located, named]
  | some found => simp [located]

theorem lookup_ensure_ne (differs : other ≠ wanted) :
    lookup key other (ensure key wanted fresh records) =
      lookup key other records := by
  unfold ensure
  cases lookup key wanted records with
  | none => simp [lookup_append, named, differs.symm]
  | some found => rfl

theorem nodup_ensure (unique : (records.map key).Nodup) :
    ((ensure key wanted fresh records).map key).Nodup := by
  unfold ensure
  cases located : lookup key wanted records with
  | none =>
    apply nodup_append_singleton unique
    rw [named]
    exact lookup_eq_none.mp located
  | some found => exact unique

end

theorem forall_ensure (all : ∀ record ∈ records, property record)
    (added : property fresh) :
    ∀ record ∈ ensure key wanted fresh records, property record := by
  unfold ensure
  cases lookup key wanted records with
  | none => exact forall_mem_append.mpr ⟨all, forall_mem_singleton.mpr added⟩
  | some found => exact all

theorem sum_ensure (weight : Record → Nat) (weightless : weight fresh = 0) :
    ((ensure key wanted fresh records).map weight).sum =
      (records.map weight).sum := by
  unfold ensure
  cases lookup key wanted records with
  | none => simp [weightless]
  | some found => rfl

variable (keep : Key → Bool)

theorem lookup_filter (kept : keep wanted = true) :
    lookup key wanted (records.filter fun record => keep (key record)) =
      lookup key wanted records := by
  rw [lookup_eq_find?, lookup_eq_find?, find?_filter]
  congr with record
  by_cases same : key record = wanted <;> simp [same, kept]

theorem lookup_filter_dropped (dropped : keep wanted = false) :
    lookup key wanted (records.filter fun record => keep (key record)) =
      none := by
  rw [lookup_eq_none]
  intro member
  obtain ⟨record, kept, named⟩ := mem_map.mp member
  have stays := (mem_filter.mp kept).2
  rw [named, dropped] at stays
  cases stays

theorem modify_filter (keeps : ∀ record, key (change record) = key record) :
    modify key wanted change (records.filter fun record => keep (key record)) =
      (modify key wanted change records).filter fun record =>
        keep (key record) := by
  induction records with
  | nil => rfl
  | cons record records induction =>
    by_cases same : key record = wanted
    · by_cases stays : keep wanted = true
      · simp [keeps, same, stays]
      · have dropped : lookup key wanted
            (records.filter fun record => keep (key record)) = none :=
          lookup_filter_dropped keep (eq_false_iff.mpr stays)
        have absent : modify key wanted change
            (records.filter fun record => keep (key record)) =
              records.filter fun record => keep (key record) :=
          modify_absent dropped
        simp [keeps, same, stays, absent]
    · by_cases stays : keep (key record) = true
      all_goals simp [same, stays, induction]

theorem filter_modify_dropped (dropped : keep wanted = false)
    (keeps : ∀ record, key (change record) = key record) :
    ((modify key wanted change records).filter fun record =>
        keep (key record)) =
      records.filter fun record => keep (key record) := by
  rw [← modify_filter keep keeps]
  exact modify_absent (lookup_filter_dropped keep dropped)

theorem remove_filter :
    remove key wanted (records.filter fun record => keep (key record)) =
      (remove key wanted records).filter fun record => keep (key record) := by
  induction records with
  | nil => rfl
  | cons record records induction =>
    by_cases same : key record = wanted
    · by_cases stays : keep wanted = true
      · simp [same, stays]
      · have dropped : lookup key wanted
            (records.filter fun record => keep (key record)) = none :=
          lookup_filter_dropped keep (eq_false_iff.mpr stays)
        have absent := remove_absent dropped
        simp [same, stays, absent]
    · by_cases stays : keep (key record) = true
      all_goals simp [same, stays, induction]

end NearLink.Keyed
