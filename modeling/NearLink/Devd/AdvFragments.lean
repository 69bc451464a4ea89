import NearLink.Devd.AdvRun

/-!
# Fragments of an advertising payload

The commands that a payload still needs are a plan.  Every answer takes the
head of the plan, and the node that results follows the rest.
-/

namespace NearLink.Devd

open Sdf Transition List

/-- The fragments of the payload from the offset on. -/
def fragments (maxLen : Nat) (payload : Bytes) (offset : Nat) :
    List (Fragment × Bytes) :=
  if offset < payload.length ∧ 0 < maxLen then
    let length := min (payload.length - offset) maxLen
    ((AdvNode.getAdvDataOperation maxLen payload.length offset).2,
        (payload.drop offset).take length) ::
      fragments maxLen payload (offset + length)
  else []
termination_by payload.length - offset

/-- The fragments make up the payload, none is empty or too long, and the
operations tell the first and the last. -/
structure Carries (maxLen : Nat) (payload : Bytes)
    (parts : List (Fragment × Bytes)) : Prop where
  whole : parts.flatMap Prod.snd = payload
  sized : ∀ part ∈ parts, 0 < part.2.length ∧ part.2.length ≤ maxLen
  marked : parts.map Prod.fst = [.complete] ∨ ∃ count, parts.map Prod.fst =
      .first :: (List.replicate count .intermediate ++ [.last])

section Fragments

variable {maxLen offset : Nat} {payload : Bytes}

theorem fragments_next (left : offset < payload.length) (longest : 0 < maxLen) :
    fragments maxLen payload offset =
      ((AdvNode.getAdvDataOperation maxLen payload.length offset).2,
          (payload.drop offset).take (min (payload.length - offset) maxLen)) ::
        fragments maxLen payload
          (offset + min (payload.length - offset) maxLen) := by
  rw [fragments, if_pos ⟨left, longest⟩]

theorem fragments_end (done : payload.length ≤ offset) :
    fragments maxLen payload offset = [] := by
  rw [fragments, if_neg (by omega)]

theorem Carries.ne_nil {parts : List (Fragment × Bytes)}
    (carries : Carries maxLen payload parts) : parts ≠ [] := by
  rintro rfl
  rcases carries.marked with whole | ⟨count, several⟩
  · cases whole
  · cases several

variable (longest : 0 < maxLen)
include longest

theorem flatMap_fragments : (fragments maxLen payload offset).flatMap Prod.snd =
      payload.drop offset := by
  induction offset using fragments.induct maxLen payload with
  | case1 offset left length induction =>
    rw [fragments_next left.1 longest, flatMap_cons, induction, ← drop_drop]
    exact take_append_drop ..
  | case2 offset done =>
    have done : payload.length ≤ offset := by omega
    rw [fragments_end done, drop_eq_nil_of_le done]
    rfl

theorem length_fragment : ∀ part ∈ fragments maxLen payload offset,
      0 < part.2.length ∧ part.2.length ≤ maxLen := by
  induction offset using fragments.induct maxLen payload with
  | case1 offset left length induction =>
    rw [fragments_next left.1 longest]
    intro part member
    cases member with
    | head =>
      rw [length_take, length_drop]
      omega
    | tail _ later => exact induction part later
  | case2 offset done =>
    rw [fragments_end (by omega)]
    exact nofun

theorem operations_later (begun : 0 < offset) (left : offset < payload.length) :
    ∃ count, (fragments maxLen payload offset).map Prod.fst =
      List.replicate count .intermediate ++ [.last] := by
  induction offset using fragments.induct maxLen payload with
  | case1 offset _ length induction =>
    rw [fragments_next left longest, map_cons,
      AdvNode.getAdvDataOperation, if_neg (by omega)]
    dsimp only
    rw [if_neg (by omega)]
    by_cases last : length + offset = payload.length
    · refine ⟨0, ?_⟩
      rw [if_pos last, fragments_end (by omega)]
      rfl
    · obtain ⟨count, later⟩ := induction (by omega) (by omega)
      refine ⟨count + 1, ?_⟩
      rw [if_neg last, later]
      rfl
  | case2 offset done => omega

theorem carries_fragments (sized : 0 < payload.length) :
    Carries maxLen payload (fragments maxLen payload 0) where
  whole := flatMap_fragments longest
  sized := length_fragment longest
  marked := by
    rw [fragments_next sized longest, map_cons,
      AdvNode.getAdvDataOperation, if_neg (by omega)]
    dsimp only
    rw [if_pos rfl]
    by_cases whole : min (payload.length - 0) maxLen = payload.length
    · rw [if_pos whole, fragments_end (by omega)]
      exact .inl rfl
    · obtain ⟨count, later⟩ := @operations_later maxLen
        (0 + min (payload.length - 0) maxLen) payload longest (by omega)
        (by omega)
      rw [if_neg whole, later]
      exact .inr ⟨count, rfl⟩

end Fragments

def AdvCommand.loads : AdvCommand → Bool
  | .setAdvData .. => true
  | .setScanRspData .. => true
  | _ => false

def AdvNote.loaded : AdvNote → Option AdvCommand
  | .answered command _ => if command.loads then some command else none
  | _ => none

namespace Part

def commands (part : Part) (parts : List (Fragment × Bytes)) :
    List AdvCommand :=
  parts.map fun fragment => part.command fragment.1 fragment.2

def later (maxLen : Nat) (param : AdvParam) (data : AdvData) :
    Part → List AdvCommand
  | .advData =>
    if data.scanRspData ≠ [] ∧ param.scanable then
      scanRspData.commands (fragments maxLen data.scanRspData 0)
    else []
  | .scanRspData => []

def plan (part : Part) (maxLen : Nat) (param : AdvParam) (data : AdvData)
    (offset : Nat) : List AdvCommand :=
  part.commands (fragments maxLen (part.payload data) offset) ++
    part.later maxLen param data

theorem loads_command (part : Part) (operation : Fragment) (bytes : Bytes) :
    (part.command operation bytes).loads = true := by
  cases part <;> rfl

end Part

namespace AdvSet

/-- The data commands of the set that have been answered. -/
def loaded (set : AdvSet) : List AdvCommand :=
  set.log.filterMap AdvNote.loaded

/-- The data commands of the set, the last of which may be unanswered. -/
def sent (set : AdvSet) : List AdvCommand :=
  set.loaded ++ set.outstanding.filter AdvCommand.loads

/-- The plan lists the data commands that are not yet answered. -/
inductive Sends (maxLen : Nat) (param : AdvParam) (data : AdvData) :
    AdvSet → List AdvCommand → Prop where
  | sending {set : AdvSet} {node : AdvNode} {operation : Fragment}
      {bytes : Bytes} (part : Part) (present : set.node = some node)
      (known : node.param = some param) (buffer : node.tempData = some data)
      (status : node.status = part.status)
      (scans : part = .scanRspData → param.scanable = true)
      (asked : set.outstanding = [part.command operation bytes]) :
      Sends maxLen param data set (part.command operation bytes ::
        part.plan maxLen param data node.dataOffset)
  | sent {set : AdvSet} (quiet : set.outstanding = [] ∨
      set.outstanding = [.enableAdv true]) : Sends maxLen param data set []

/-- A command with a fragment finds memory and is taken. -/
def Works (env : AdvEnv) : Prop :=
  env.commandAlloc = true ∧ env.dli = true

instance (env : AdvEnv) : Decidable (Works env) :=
  inferInstanceAs (Decidable (_ ∧ _))

/-- The length field of a command can tell the length of every fragment. -/
def Fits (maxLen : Nat) (param : AdvParam) (data : AdvData) : Prop :=
  maxLen ≤ 0xFF ∨ data.advData.length ≤ 0xFF ∧
    (data.scanRspData ≠ [] ∧ param.scanable → data.scanRspData.length ≤ 0xFF)

variable {env : AdvEnv} {maxLen : Nat} {param : AdvParam} {data : AdvData}
  {set before : AdvSet} {node next : AdvNode} {plan : List AdvCommand}

theorem Fits.serves (fits : Fits maxLen param data) (longest : 0 < maxLen)
    (works : Works env) {part : Part} {offset : Nat}
    (scans : part = .scanRspData → param.scanable = true)
    (left : offset < (part.payload data).length) :
    Serves env maxLen ((part.payload data).length - offset) := by
  refine ⟨longest, works.1, works.2, ?_⟩
  rcases fits with short | ⟨adv, scan⟩
  · omega
  cases part with
  | advData =>
    simp only [Part.payload]
    omega
  | scanRspData =>
    simp only [Part.payload] at left ⊢
    have some_data : data.scanRspData ≠ [] :=
      ne_nil_of_length_pos (by omega)
    have most := scan ⟨some_data, scans rfl⟩
    omega

theorem loaded_note (set : AdvSet) (entry : AdvNote) :
    (set.note entry).loaded = set.loaded ++ entry.loaded.toList := by
  simp only [loaded, note, filterMap_append]
  cases known : entry.loaded <;> simp [known]

theorem loaded_report (set : AdvSet) (event : AdvEvent) (result : UInt8) :
    (set.report event result).loaded = set.loaded :=
  (loaded_note ..).trans (append_nil _)

theorem sends_sendAdvDataToDli (part : Part) (known : node.param = some param)
    (buffer : node.tempData = some data) (status : node.status = part.status)
    (scans : part = .scanRspData → param.scanable = true)
    (left : node.dataOffset < (part.payload data).length)
    (answered : set.outstanding = [])
    (serves : Serves env maxLen
      ((part.payload data).length - node.dataOffset)) :
    (set.sendAdvDataToDli env maxLen node).loaded = set.loaded ∧
      Sends maxLen param data (set.sendAdvDataToDli env maxLen node)
        (part.plan maxLen param data node.dataOffset) := by
  rw [sendAdvDataToDli_part set part known buffer status scans left answered
    serves, Part.plan, fragments_next left serves.1]
  exact ⟨rfl, @Sends.sending maxLen param data _ { node with
    sendLen := _, dataOffset := _ } _ _ part rfl known buffer status scans rfl⟩

theorem sendAdvDataToDli_long (set : AdvSet) (part : Part)
    (known : node.param = some param) (buffer : node.tempData = some data)
    (status : node.status = part.status)
    (scans : part = .scanRspData → param.scanable = true)
    (left : node.dataOffset < (part.payload data).length)
    (long : 0xFF < min ((part.payload data).length - node.dataOffset) maxLen) :
    ∃ kept, set.sendAdvDataToDli env maxLen node = set.put kept := by
  have length : (AdvNode.getAdvDataOperation maxLen
      (part.payload data).length node.dataOffset).1 =
        min ((part.payload data).length - node.dataOffset) maxLen := by
    rw [AdvNode.getAdvDataOperation, if_neg (by omega)]
  rw [sendAdvDataToDli_eq set part known buffer status scans, sendFragment]
  exact ⟨_, if_pos (.inr (.inr (length ▸ long)))⟩

theorem setAdvDataCbk_more (env : AdvEnv) (maxLen : Nat)
    {event : Option AdvEvent} (present : set.node = some node)
    (buffer : node.tempData = some data)
    (updated : updateAdvDataStatus node data = (next, event))
    (busy : next.status ≠ .idle) :
    ∃ told : AdvSet, told.outstanding = set.outstanding ∧
      told.loaded = set.loaded ∧ set.setAdvDataCbk env maxLen 0 =
        told.sendAdvDataToDli env maxLen next := by
  unfold setAdvDataCbk
  simp only [present, buffer, updated]
  rw [if_neg (by decide)]
  split
  · unfold updateAdvDataHandle
    rw [if_neg (by simp), if_neg busy]
    cases event with
    | none => exact ⟨set, rfl, rfl, rfl⟩
    | some event => exact ⟨set.report event 0, rfl, loaded_report .., rfl⟩
  · rw [setAdvDataHandle, if_neg (by simp), if_neg busy]
    exact ⟨set, rfl, rfl, rfl⟩

theorem setAdvDataCbk_last {event : AdvEvent}
    (present : set.node = some node) (buffer : node.tempData = some data)
    (updated : updateAdvDataStatus node data = (next, some event))
    (idle : next.status = .idle) (answered : set.outstanding = [])
    (dli : env.dli = true) :
    (set.setAdvDataCbk env maxLen 0).loaded = set.loaded ∧
      Sends maxLen param data (set.setAdvDataCbk env maxLen 0) [] := by
  unfold setAdvDataCbk
  simp only [present, buffer, updated]
  rw [if_neg (by decide)]
  split
  · rw [updateAdvDataHandle, if_neg (by simp), if_pos idle]
    exact ⟨loaded_report .., .sent (.inl answered)⟩
  · rw [setAdvDataHandle, if_neg (by simp), if_pos idle]
    dsimp only
    split
    · rw [sendEnable, if_pos dli, send, if_pos dli]
      exact ⟨rfl, .sent (.inr (congrArg (· ++ _) answered))⟩
    · exact ⟨rfl, .sent (.inl answered)⟩

section

variable (sends : Sends maxLen param data set plan)
include sends

theorem Sends.complete (fits : Fits maxLen param data) (longest : 0 < maxLen)
    (works : Works env) :
    (set.complete env maxLen 0).loaded = set.loaded ++ plan.take 1 ∧
      Sends maxLen param data (set.complete env maxLen 0) plan.tail := by
  obtain ⟨holder, outstanding, log⟩ := set
  cases sends with
  | @sending node operation bytes part present known buffer status scans
      asked =>
      cases present
      cases asked
      let answered := (⟨some node, [], log⟩ : AdvSet).note
        (.answered (part.command operation bytes) true)
      have loaded : answered.loaded = loaded ⟨some node,
          [part.command operation bytes], log⟩ ++
            [part.command operation bytes] := by
        rw [loaded_note, AdvNote.loaded, Part.loads_command]
        rfl
      have goes : AdvSet.complete env maxLen ⟨some node,
          [part.command operation bytes], log⟩ 0 =
            answered.setAdvDataCbk env maxLen 0 := by
        cases part <;> rfl
      have shows : node.answersScans data =
          (data.scanRspData ≠ [] && param.scanable) := by
        rw [AdvNode.answersScans, known]
        rfl
      rw [goes, take_succ_cons, take_zero, ← loaded, tail_cons]
      by_cases more : node.dataOffset < (part.payload data).length
      · obtain ⟨told, quiet, same, sent⟩ := setAdvDataCbk_more env maxLen
          (rfl : answered.node = some node) buffer
          (updateAdvDataStatus_more status more)
          (by rw [status]; cases part <;> decide)
        rw [sent, ← same]
        exact sends_sendAdvDataToDli part known buffer status scans more quiet
          (fits.serves longest works scans more)
      · have done := Nat.not_lt.mp more
        rw [Part.plan, fragments_end done]
        by_cases last : part = .advData → node.answersScans data = false
        · have later : part.later maxLen param data = [] := by
            cases part with
            | advData => exact if_neg (by simpa [shows] using last rfl)
            | scanRspData => rfl
          rw [later]
          exact setAdvDataCbk_last rfl buffer
            (updateAdvDataStatus_last status done last) rfl rfl works.2
        · obtain ⟨first, answers⟩ := Classical.not_imp.mp last
          rw [Bool.not_eq_false] at answers
          subst first
          obtain ⟨told, quiet, same, sent⟩ := setAdvDataCbk_more env
            maxLen (rfl : answered.node = some node) buffer
            (updateAdvDataStatus_turn status done answers) (by simp)
          simp only [shows, Bool.and_eq_true, decide_eq_true_eq] at answers
          rw [sent, ← same, Part.later, if_pos answers]
          have turned := @sends_sendAdvDataToDli env maxLen param data told
            { node with
              dataOffset := 0, sendLen := 0, status := .setScanRspData }
            .scanRspData known buffer rfl (fun _ => answers.2)
            (length_pos_of_ne_nil answers.1) quiet
            (fits.serves longest works (fun _ => answers.2)
              (length_pos_of_ne_nil answers.1))
          rw [Part.plan, Part.later, append_nil] at turned
          exact turned
  | sent quiet =>
    rcases quiet with none | enables
    · cases none
      exact ⟨(append_nil _).symm, .sent (.inl rfl)⟩
    · cases enables
      let answered := (⟨holder, [], log⟩ : AdvSet).note
        (.answered (.enableAdv true) true)
      have goes : AdvSet.complete env maxLen ⟨holder, [.enableAdv true],
          log⟩ 0 = answered.enableAdvCbk 0 := rfl
      have loaded : answered.loaded = loaded ⟨holder, [.enableAdv true],
          log⟩ ++ [] := loaded_note ..
      rw [goes, take_nil, ← loaded, enableAdvCbk]
      cases holder with
      | none => exact ⟨rfl, .sent (.inl rfl)⟩
      | some node => exact ⟨loaded_report .., .sent (.inl rfl)⟩

theorem Sends.outstanding :
    set.outstanding.filter AdvCommand.loads = plan.take 1 := by
  cases sends with
  | sending part present known buffer status scans asked =>
    rw [asked, filter_cons_of_pos (part.loads_command ..)]
    rfl
  | sent quiet =>
    rcases quiet with none | enables
    · rw [none]
      rfl
    · rw [enables]
      rfl

theorem Sends.run (fits : Fits maxLen param data) (longest : 0 < maxLen)
    {envs : List AdvEnv} (works : ∀ env ∈ envs, Works env) :
    (run (step maxLen) set (envs.map (·, .complete 0))).sent =
      set.loaded ++ plan.take (envs.length + 1) := by
  induction envs generalizing set plan with
  | nil => exact congrArg (set.loaded ++ ·) sends.outstanding
  | cons env envs induction =>
    obtain ⟨loaded, later⟩ :=
      sends.complete fits longest (works env (by simp))
    have sent := induction later fun other member =>
      works other (.tail _ member)
    rw [map_cons, run_cons, length_cons]
    refine sent.trans ?_
    rw [loaded, append_assoc]
    cases plan with
    | nil => simp
    | cons command plan => rfl

end

/-- The request to set a payload is accepted, and the set begins to send
it. -/
inductive Begins (maxLen : Nat) (param : AdvParam) (data : AdvData) :
    AdvSet → AdvSet → Prop where
  | update {set : AdvSet} {node : AdvNode} {env : AdvEnv}
      (present : set.node = some node) (idle : node.status = .idle)
      (answered : set.outstanding = []) (known : node.param = some param)
      (saves : data.scanRspData.length ≤ 0x07FF ∧ env.dataAlloc = true)
      (works : Works env) :
      Begins maxLen param data set (set.setAdvData env maxLen data)
  | set {set : AdvSet} {node : AdvNode} {env later : AdvEnv}
      (present : set.node = some node) (idle : node.status = .idle)
      (answered : set.outstanding = []) (number : node.advStatus ≠ 1)
      (saves : data.scanRspData.length ≤ 0x07FF ∧ env.dataAlloc = true)
      (asks : env.paramAlloc = true ∧ env.dli = true)
      (works : Works later) :
      Begins maxLen param data set
        ((set.setAdvParam env param data).complete later maxLen 0)

theorem Begins.begun (begins : Begins maxLen param data before set) :
    ∃ (asked : AdvSet) (node : AdvNode) (env : AdvEnv),
      set = asked.sendAdvDataToDli env maxLen node ∧
        asked.loaded = before.sent ∧ asked.outstanding = [] ∧ Works env ∧
          node.param = some param ∧ node.tempData = some data ∧
            node.status = .setAdvData ∧ node.dataOffset = 0 := by
  cases begins with
  | @update node env present idle answered known saves works =>
    have accepted : (before.note (.accepted (.setAdvData data))).loaded =
        before.sent := by
      rw [loaded_note, sent, answered]
      rfl
    rw [← accepted, setAdvData, present]
    dsimp only
    rw [if_neg (not_not.mpr idle), saveAdvData_saved saves.1 saves.2]
    exact ⟨_, _, env, rfl, rfl, answered, works, known, rfl, rfl, rfl⟩
  | @set node env later present idle answered number saves asks works =>
    let asked := (({ before with outstanding := [] } : AdvSet).note
      (.accepted (.setAdvParam param data))).note
        (.answered (.setAdvParam param) true)
    have loaded : asked.loaded = before.sent := by
      rw [loaded_note, loaded_note, sent, answered]
      exact append_nil _
    have begun : (before.setAdvParam env param data).complete later maxLen
        0 = sendAdvDataToDli later maxLen { asked with
            node := some { node with
              tempParam := some param
              tempData := some data
              status := .setAdvParams } } { node with
          param := some param
          tempParam := none
          tempData := some data
          status := .setAdvData
          dataOffset := 0
          sendLen := 0 } := by
      rw [setAdvParam, present]
      dsimp only
      rw [if_neg number, if_neg (not_not.mpr idle), if_pos asks.1,
        saveAdvData_saved saves.1 saves.2, if_pos rfl, send, if_pos asks.2]
      simp only [put, note, answered]
      rfl
    exact ⟨_, _, later, begun, loaded, rfl, works, rfl, rfl, rfl, rfl⟩

/-- Every fragment of the payload is sent once and in order, then every
fragment of the scan response if the mode answers scans, and no more. -/
def SendsPayload (maxLen : Nat) (param : AdvParam) (data : AdvData)
    (before set : AdvSet) : Prop :=
  ∃ adv scan : List (Fragment × Bytes), Carries maxLen data.advData adv ∧
    (if data.scanRspData ≠ [] ∧ param.scanable
      then Carries maxLen data.scanRspData scan else scan = []) ∧
    ∀ envs : List AdvEnv, (∀ env ∈ envs, Works env) →
      (run (step maxLen) set (envs.map (·, .complete 0))).sent =
        before.sent ++ (Part.advData.commands adv ++
          Part.scanRspData.commands scan).take (envs.length + 1)

section

variable (begins : Begins maxLen param data before set) (longest : 0 < maxLen)
include begins longest

theorem Begins.sends_payload (fits : Fits maxLen param data) :
    SendsPayload maxLen param data before set := by
  obtain ⟨asked, node, env, rfl, loaded, answered, works, known, buffer,
    status, offset⟩ := begins.begun
  have left : node.dataOffset < (Part.advData.payload data).length :=
    offset ▸ data.sized.1
  obtain ⟨same, sends⟩ := sends_sendAdvDataToDli .advData known buffer status
    nofun left answered (fits.serves longest works nofun left)
  rw [offset] at sends
  refine ⟨fragments maxLen data.advData 0,
    if data.scanRspData ≠ [] ∧ param.scanable
      then fragments maxLen data.scanRspData 0 else [],
    carries_fragments longest data.sized.1, ?_, ?_⟩
  · split
    case isTrue answers =>
      exact carries_fragments longest (length_pos_of_ne_nil answers.1)
    case isFalse => rfl
  · intro envs works
    rw [sends.run fits longest works, same, loaded, Part.plan, Part.later]
    split <;> rfl

omit longest in
/-- The first fragment of a payload that is too long is not sent. -/
theorem Begins.silent (long : 0xFF < min data.advData.length maxLen) :
    set.sent = before.sent := by
  obtain ⟨asked, node, env, rfl, loaded, answered, _, known, buffer, status,
    offset⟩ := begins.begun
  have left : node.dataOffset < (Part.advData.payload data).length :=
    offset ▸ data.sized.1
  obtain ⟨kept, same⟩ := @sendAdvDataToDli_long env maxLen param data node asked
    .advData known buffer status nofun left (by simpa [offset, Part.payload] using long)
  rw [same, ← loaded]
  change asked.loaded ++ asked.outstanding.filter _ = _
  rw [answered]
  exact append_nil _

/-- The scan response that is too long is not sent behind the payload. -/
theorem Begins.stalls (short : data.advData.length ≤ 0xFF)
    (answers : data.scanRspData ≠ [] ∧ param.scanable = true)
    (long : 0xFF < min data.scanRspData.length maxLen) (later : AdvEnv) :
    (set.complete later maxLen 0).sent.length = before.sent.length + 1 := by
  obtain ⟨asked, node, env, rfl, loaded, answered, works, known, buffer,
    status, offset⟩ := begins.begun
  have left : node.dataOffset < (Part.advData.payload data).length :=
    offset ▸ data.sized.1
  have whole : min ((Part.advData.payload data).length - node.dataOffset)
      maxLen = data.advData.length := by
    simp only [Part.payload, offset]
    omega
  have serves : Serves env maxLen
      ((Part.advData.payload data).length - node.dataOffset) :=
    ⟨longest, works.1, works.2, whole.le.trans short⟩
  rw [sendAdvDataToDli_part asked .advData known buffer status (by simp) left
    answered serves]
  rw [whole, offset]
  let command : AdvCommand := .setAdvData
    (AdvNode.getAdvDataOperation maxLen data.advData.length 0).2
      ((data.advData.drop 0).take data.advData.length)
  let next : AdvNode := { node with
    sendLen := data.advData.length
    dataOffset := 0 + data.advData.length }
  let after : AdvSet := ({ asked with
    node := some next, outstanding := [] } : AdvSet).note
      (.answered command true)
  have shows : next.answersScans data = true := by
    simp [AdvNode.answersScans, next, known, answers]
  obtain ⟨told, quiet, same, goes⟩ := setAdvDataCbk_more later maxLen
    (rfl : after.node = some next) buffer
    (updateAdvDataStatus_turn status (by simp [next]) shows) (by simp)
  obtain ⟨kept, stays⟩ := @sendAdvDataToDli_long later maxLen param data
    { next with dataOffset := 0, sendLen := 0, status := .setScanRspData } told
    .scanRspData known buffer rfl (fun _ => answers.2)
    (length_pos_of_ne_nil answers.1) long
  have step : AdvSet.complete later maxLen { asked with
      node := some next, outstanding := [command] } 0 =
        after.setAdvDataCbk later maxLen 0 := rfl
  refine (congrArg (fun set : AdvSet => set.sent.length)
    (step.trans (goes.trans stays))).trans ?_
  change (told.loaded ++ told.outstanding.filter _).length = _
  rw [same, quiet, loaded_note, ← loaded]
  change (asked.loaded ++ [command] ++ []).length = _
  simp

theorem Begins.fits (sends : SendsPayload maxLen param data before set) :
    Fits maxLen param data := by
  obtain ⟨adv, scan, carries, scans, sent⟩ := sends
  have some_adv := length_pos_of_ne_nil carries.ne_nil
  by_contra misfit
  unfold Fits at misfit
  by_cases short : data.advData.length ≤ 0xFF
  · have answers : data.scanRspData ≠ [] ∧ param.scanable = true := by
      by_contra silent
      exact misfit (.inr ⟨short, fun answers => absurd answers silent⟩)
    rw [if_pos answers] at scans
    have some_scan := length_pos_of_ne_nil scans.ne_nil
    have more := congrArg length (sent [{}] (by decide))
    have stalled := begins.stalls longest short answers (by omega) {}
    change (set.complete {} maxLen 0).sent.length = _ at more
    rw [stalled] at more
    simp only [length_append, length_take, Part.commands, length_map,
      length_cons] at more
    omega
  · have none := sent [] nofun
    have silent := begins.silent (by omega)
    have more := congrArg length (silent.symm.trans none)
    simp only [length_append, length_take, Part.commands, length_map] at more
    omega

/-- The payload is sent as a whole exactly when the length field of a command
can tell the length of every fragment. -/
theorem Begins.sends_payload_iff :
    SendsPayload maxLen param data before set ↔ Fits maxLen param data :=
  ⟨begins.fits longest, begins.sends_payload longest⟩

end

def advertised : AdvNode := { param := some scanableParam }

theorem sends_advertised : SendsPayload 2 scanableParam shortData
    ⟨some advertised, [], []⟩
    (AdvSet.setAdvData {} 2 ⟨some advertised, [], []⟩ shortData) :=
  (Begins.sends_payload_iff
    (.update rfl rfl rfl rfl ⟨by decide, rfl⟩ ⟨rfl, rfl⟩) (by decide)).mpr
      (.inl (by decide))

def longData : AdvData where
  advData := List.replicate 300 1
  scanRspData := []
  sized := by
    rw [List.length_replicate]
    decide

/-- No command carries a part of 300 bytes. -/
theorem sends_not_long : ¬ ∀ maxLen param data before set, 0 < maxLen →
    Begins maxLen param data before set →
      SendsPayload maxLen param data before set := by
  intro all
  have begins : Begins 512 scanableParam longData ⟨some advertised, [], []⟩
      (AdvSet.setAdvData {} 512 ⟨some advertised, [], []⟩ longData) :=
    .update rfl rfl rfl rfl ⟨by decide, rfl⟩ ⟨rfl, rfl⟩
  have fits := begins.fits (by decide) (all _ _ _ _ _ (by decide) begins)
  have length : longData.advData.length = 300 := length_replicate
  rcases fits with short | ⟨short, _⟩
  · exact absurd short (by decide)
  · omega

end AdvSet

end NearLink.Devd
