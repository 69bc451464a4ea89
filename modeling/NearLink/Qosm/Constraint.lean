import Mathlib.Data.List.Forall2
import Mathlib.Order.Basic

/-!
# Constraints on the bit rate of a synchronous link

`QOSM_ICGMgrParamNotifyInner` of `qosm_autorate_notify.c` and
`QOSM_HandleDownwardBitrateConstraint` of `qosm_autorate_common.c`.
-/

namespace NearLink.Qosm

open List

/-- The fields of `QOSM_LinkParam` that are read. -/
structure LinkParam where
  dutyCycle : UInt8
  downwardBitrate : UInt16
  deriving DecidableEq

structure QosLevelLabel where
  isAvailable : Bool := false
  isSupported : Bool
  qosParam : LinkParam
  testLabelId : UInt8 := 0
  labelId : UInt8
  deriving DecidableEq

inductive IcbType where
  | iob
  | imb
  deriving DecidableEq

inductive QosIndex where
  | audio
  | lowLatency
  | call
  | spatialAudio
  | hdRecording
  | voiceAssistant
  | others
  | karaoke
  deriving DecidableEq

inductive LinkConnectStatus where
  | none
  | labelSetting
  | connecting
  | connected
  | success
  deriving DecidableEq

inductive LevelDirection where
  | none
  | up
  | down
  deriving DecidableEq

def updateNone : UInt8 := 0

def updateByCall : UInt8 := 2

def invalidLabel : UInt8 := 255

def dutyCycleAny : UInt8 := 3

/-- `QOSM_ICGInfo`; the counts of levels and links are those of the lists, and
of the bit rates of the earphone the first eight are stored. -/
structure IcgInfo where
  icbType : IcbType
  qosIndex : QosIndex
  isTest : Bool := false
  supportAutorate : Bool := true
  is5G : Bool := false
  level : List QosLevelLabel
  earphoneBitrate : List UInt16
  updateStatus : UInt8 := updateNone
  link : List LinkConnectStatus
  qosParam : Option LinkParam
  updatedDirection : LevelDirection := .none
  updatedQosParam : Option LinkParam := none
  updatedLabelId : UInt8 := 0
  reportedDirection : LevelDirection := .none
  reportedQosParam : Option LinkParam := none
  reportedLabelId : UInt8 := 0
  isSupportFrame4 : Bool := false

/-- The global settings. -/
structure Autorate where
  isEnabled : Bool := true
  isDspOn : Bool := true
  dutyCycle : UInt8 := 0
  fixedDutyCycle : UInt8 := 0
  maxBitrate : UInt16 := 4600

inductive NotifyType where
  | earphone
  | coexist
  | fiveG
  deriving DecidableEq

structure NotifyParam where
  type : NotifyType
  supportedBitrate : List UInt16 := []

/-- What the module tells others. -/
inductive Notice where
  | reportedBitrateChanged (direction : LevelDirection) (labelId : UInt8)
      (qosParam : LinkParam)
  | changePeerBitrateReq (direction : LevelDirection) (labelId : UInt8)
  | changeLabelSetTimer (direction : LevelDirection)

namespace Autorate

def getDutyCycle (auto : Autorate) : UInt8 :=
  if auto.fixedDutyCycle = 1 then 0
  else if auto.fixedDutyCycle = 2 then 1
  else auto.dutyCycle

def isDutyCycleFixed (auto : Autorate) : Bool :=
  auto.fixedDutyCycle != 0

def isDutyCycleMatch (auto : Autorate) (dutyCycle : UInt8) : Bool :=
  !auto.isEnabled || auto.getDutyCycle == dutyCycleAny ||
    dutyCycle == dutyCycleAny || auto.getDutyCycle == dutyCycle

end Autorate

def getICBTypeByIndex : QosIndex → IcbType
  | .call | .voiceAssistant => .imb
  | _ => .iob

namespace IcgInfo

variable (auto : Autorate) (icg : IcgInfo)

def getRealBitrate (bitrate : UInt16) : UInt16 :=
  match icg.icbType with
  | .iob => bitrate * .ofNat icg.link.length
  | .imb => bitrate

def isBitrateAvailable (bitrate : UInt16) : Bool :=
  bitrate ≤ (if icg.is5G then 1500 else 4600) &&
    bitrate ≥ (if icg.is5G then 64 else 32) && bitrate ≤ auto.maxBitrate

def setLevelAvailable (level : QosLevelLabel) : QosLevelLabel :=
  let bitrate := level.qosParam.downwardBitrate
  { level with
    isAvailable := level.isSupported &&
      (icg.earphoneBitrate.take 8).any fun supported =>
        bitrate == icg.getRealBitrate supported &&
          icg.isBitrateAvailable auto bitrate &&
          auto.isDutyCycleMatch level.qosParam.dutyCycle }

def isSupportedBitrateValid (notify : NotifyParam) : Bool :=
  notify.supportedBitrate.all fun supported =>
    icg.level.all fun level =>
      level.qosParam.downwardBitrate != icg.getRealBitrate supported ||
        level.isSupported

def hasICBConnecting : Bool :=
  icg.link.any fun link => link = .labelSetting ∨ link = .connecting

def isICBConnected (link : LinkConnectStatus) : Bool :=
  link = .connected ∨ link = .success

def isAutorateSupported : Bool :=
  auto.isDspOn && icg.supportAutorate &&
    match icg.qosIndex with
    | .voiceAssistant | .karaoke => false
    | .call => icg.isSupportFrame4
    | _ => true

def getRealLabelId (level : QosLevelLabel) : UInt8 :=
  if icg.isTest then level.testLabelId else level.labelId

def levelDownProc (isByReport : Bool) : List Notice :=
  let direction :=
    if isByReport then icg.reportedDirection else icg.updatedDirection
  let labelId := if isByReport then icg.reportedLabelId else icg.updatedLabelId
  match if isByReport then icg.reportedQosParam else icg.updatedQosParam with
  | none => []
  | some qosParam =>
    (if getICBTypeByIndex icg.qosIndex = .imb ∧ icg.isSupportFrame4 then
      [.changePeerBitrateReq direction labelId] else []) ++
    [.reportedBitrateChanged direction labelId qosParam,
      .changeLabelSetTimer direction]

def choose (current : LinkParam) (level : QosLevelLabel) (icg : IcgInfo) :
    IcgInfo :=
  if level.isAvailable ∧
      level.qosParam.downwardBitrate ≤ current.downwardBitrate ∧
      auto.isDutyCycleMatch level.qosParam.dutyCycle then
    { icg with
      updatedQosParam := some level.qosParam
      updatedLabelId := icg.getRealLabelId level }
  else icg

/-- The loop over the levels runs from the last to the first. -/
def select (current : LinkParam) : IcgInfo :=
  icg.level.foldr (choose auto current) icg

def handleDownwardBitrateConstraint : Bool × IcgInfo × List Notice :=
  match icg.qosParam with
  | none => (false, icg, [])
  | some current =>
    if icg.level = [] then (false, icg, [])
    else if icg.level.any fun level =>
        current.downwardBitrate == level.qosParam.downwardBitrate &&
          auto.isDutyCycleMatch current.dutyCycle && level.isAvailable then
      (false, icg, [.reportedBitrateChanged .none invalidLabel current])
    else
      let icg := icg.select auto current
      if icg.updatedQosParam.isSome then
        let icg := { icg with
          updateStatus := icg.updateStatus ||| updateByCall
          updatedDirection := .down }
        (true, icg, icg.levelDownProc false)
      else (false, icg, [.reportedBitrateChanged .none invalidLabel current])

/-- The loop over the links ends at the first that is not connected. -/
def notifyLinks (notify : NotifyParam) :
    List LinkConnectStatus → IcgInfo × List Notice
  | [] => (icg, [])
  | link :: rest =>
    if ¬ isICBConnected link then (icg, [])
    else if notify.type ≠ .coexist ∨ ¬ auto.isDutyCycleFixed then
      (icg.handleDownwardBitrateConstraint auto).2
    else notifyLinks notify rest

/-- The group with the bit rates of the notification and its levels marked. -/
def mark (notify : NotifyParam) : IcgInfo :=
  let icg : IcgInfo := { icg with
    earphoneBitrate :=
      if notify.type = .earphone then notify.supportedBitrate
      else icg.earphoneBitrate }
  { icg with level := icg.level.map (icg.setLevelAvailable auto) }

def paramNotifyInner (notify : NotifyParam) : IcgInfo × List Notice :=
  if notify.type = .earphone ∧ ¬ icg.isSupportedBitrateValid notify then
    (icg, [])
  else
    let icg := icg.mark auto notify
    if icg.hasICBConnecting ∨ icg.updateStatus ≠ updateNone ∨ icg.link = [] ∨
        ¬ icg.isAutorateSupported auto ∨ icg.qosParam = none then
      (icg, [])
    else icg.notifyLinks auto notify icg.link

def Admits (level : QosLevelLabel) : Prop :=
  level.isSupported ∧
  (∃ supported ∈ icg.earphoneBitrate.take 8,
    level.qosParam.downwardBitrate = icg.getRealBitrate supported) ∧
  (if icg.is5G then 64 else 32) ≤ level.qosParam.downwardBitrate ∧
  level.qosParam.downwardBitrate ≤ (if icg.is5G then 1500 else 4600) ∧
  level.qosParam.downwardBitrate ≤ auto.maxBitrate ∧
  auto.isDutyCycleMatch level.qosParam.dutyCycle

/-- The notification passes every test on the way to the constraint. -/
structure Accepts (notify : NotifyParam) : Prop where
  valid : notify.type = .earphone → icg.isSupportedBitrateValid notify
  free : notify.type = .coexist → ¬ auto.isDutyCycleFixed
  idle : icg.updateStatus = updateNone
  supported : icg.isAutorateSupported auto
  linked : icg.link ≠ []
  connected : ∀ link ∈ icg.link, isICBConnected link

variable {auto icg} {notify : NotifyParam} {current : LinkParam}
  {level : QosLevelLabel}

theorem setLevelAvailable_iff :
    (icg.setLevelAvailable auto level).isAvailable ↔ icg.Admits auto level := by
  simp only [setLevelAvailable, isBitrateAvailable, Admits, Bool.and_eq_true,
    any_eq_true, beq_iff_eq, decide_eq_true_eq]
  constructor
  · rintro ⟨supported, bitrate, member, ⟨same, ⟨upper, lower⟩, max⟩, duty⟩
    exact ⟨supported, ⟨bitrate, member, same⟩, lower, upper, max, duty⟩
  · rintro ⟨supported, ⟨bitrate, member, same⟩, lower, upper, max, duty⟩
    exact ⟨supported, bitrate, member, ⟨same, ⟨upper, lower⟩, max⟩, duty⟩

/-- A level may be chosen in place of `current`. -/
def Fitting (auto : Autorate) (current : LinkParam) (level : QosLevelLabel) :
    Bool :=
  level.isAvailable ∧ level.qosParam.downwardBitrate ≤ current.downwardBitrate ∧
    auto.isDutyCycleMatch level.qosParam.dutyCycle

theorem foldr_choose (levels : List QosLevelLabel) :
    levels.foldr (choose auto current) icg =
      match levels.find? (Fitting auto current) with
      | none => icg
      | some level => { icg with
          updatedQosParam := some level.qosParam
          updatedLabelId := icg.getRealLabelId level } := by
  induction levels with
  | nil => rfl
  | cons level levels induction =>
    rw [foldr_cons, induction, find?_cons, choose]
    by_cases fitting : Fitting auto current level
    · rw [if_pos (by simpa [Fitting] using fitting), fitting]
      cases levels.find? (Fitting auto current) <;> rfl
    · rw [if_neg (by simpa [Fitting] using fitting),
        Bool.eq_false_iff.mpr fitting]

theorem paramNotifyInner_accepted (accepts : icg.Accepts auto notify)
    (now : icg.qosParam = some current) :
    icg.paramNotifyInner auto notify =
      ((icg.mark auto notify).handleDownwardBitrateConstraint auto).2 := by
  obtain ⟨valid, free, idle, supported, linked, connected⟩ := accepts
  have settled : ¬ (icg.mark auto notify).hasICBConnecting := by
    simp only [hasICBConnecting, any_eq_true, decide_eq_true_eq]
    rintro ⟨link, member, connecting⟩
    have := connected link member
    rcases connecting with rfl | rfl <;> simp [isICBConnected] at this
  have steady : (icg.mark auto notify).isAutorateSupported auto = true :=
    supported
  have kept : (icg.mark auto notify).link = icg.link ∧
      (icg.mark auto notify).updateStatus = icg.updateStatus ∧
      (icg.mark auto notify).qosParam = icg.qosParam :=
    ⟨rfl, rfl, rfl⟩
  rw [paramNotifyInner, if_neg fun ⟨earphone, invalid⟩ => invalid (valid earphone)]
  rw [if_neg (by simp [settled, steady, kept, idle, linked, now]), kept.1]
  obtain ⟨link, rest, links⟩ := exists_cons_of_ne_nil linked
  have first := connected link (by simp [links])
  rw [links, notifyLinks, if_neg (by simp [first]), if_pos]
  cases kind : notify.type <;> simp_all

/-- An available level has the bit rate of `current`, whose duty cycle will
do. -/
def Offers (auto : Autorate) (icg : IcgInfo) (current : LinkParam) : Prop :=
  auto.isDutyCycleMatch current.dutyCycle ∧ ∃ level ∈ icg.level,
    level.isAvailable ∧ level.qosParam.downwardBitrate = current.downwardBitrate

theorem offers_iff :
    (icg.level.any fun level =>
      current.downwardBitrate == level.qosParam.downwardBitrate &&
        auto.isDutyCycleMatch current.dutyCycle && level.isAvailable) ↔
      icg.Offers auto current := by
  simp only [any_eq_true, Bool.and_eq_true, beq_iff_eq, Offers]
  constructor
  · rintro ⟨level, member, ⟨same, duty⟩, available⟩
    exact ⟨duty, level, member, available, same.symm⟩
  · rintro ⟨duty, level, member, available, same⟩
    exact ⟨level, member, ⟨same.symm, duty⟩, available⟩

theorem handle_offered (now : icg.qosParam = some current)
    (offers : icg.Offers auto current) :
    (icg.handleDownwardBitrateConstraint auto).2.1 = icg := by
  have some : icg.level ≠ [] := ne_nil_of_mem offers.2.choose_spec.1
  simp only [handleDownwardBitrateConstraint, now, if_neg some,
    if_pos (offers_iff.mpr offers)]

theorem handle_unoffered (now : icg.qosParam = some current)
    (free : icg.updatedQosParam = none) (offers : ¬ icg.Offers auto current) :
    (icg.handleDownwardBitrateConstraint auto).2.1 =
      match icg.level.find? (Fitting auto current) with
      | none => icg
      | some level => { icg with
          updateStatus := icg.updateStatus ||| updateByCall
          updatedDirection := .down
          updatedQosParam := some level.qosParam
          updatedLabelId := icg.getRealLabelId level } := by
  simp only [handleDownwardBitrateConstraint, now,
    if_neg (mt offers_iff.mp offers), select, foldr_choose]
  by_cases empty : icg.level = []
  · simp [empty]
  rw [if_neg empty]
  cases icg.level.find? (Fitting auto current) with
  | none => simp [free]
  | some level => simp

/-- The chosen level is the best of those that fit, and the first of its bit
rate. -/
structure Best (after : IcgInfo) (current : LinkParam) : Prop where
  status : after.updateStatus = updateByCall
  direction : after.updatedDirection = .down
  level : ∃ before level behind, after.level = before ++ level :: behind ∧
    level.isAvailable ∧
    level.qosParam.downwardBitrate ≤ current.downwardBitrate ∧
    (∀ other ∈ before, other.isAvailable →
      current.downwardBitrate < other.qosParam.downwardBitrate) ∧
    (∀ other ∈ after.level, other.isAvailable →
      other.qosParam.downwardBitrate ≤ current.downwardBitrate →
      other.qosParam.downwardBitrate ≤ level.qosParam.downwardBitrate) ∧
    after.updatedQosParam = some level.qosParam ∧
    after.updatedLabelId = after.getRealLabelId level

theorem forall₂_mark :
    Forall₂ (fun before level =>
        level = { before with isAvailable := level.isAvailable } ∧
        (level.isAvailable ↔ (icg.mark auto notify).Admits auto before))
      icg.level (icg.mark auto notify).level := by
  refine forall₂_map_right_iff.mpr (forall₂_same.mpr fun level _ => ?_)
  exact ⟨rfl, setLevelAvailable_iff⟩

theorem fitting_iff (marked : level ∈ (icg.mark auto notify).level) :
    Fitting auto current level ↔ level.isAvailable ∧
      level.qosParam.downwardBitrate ≤ current.downwardBitrate := by
  obtain ⟨before, -, rfl⟩ := mem_map.mp marked
  simp only [Fitting, decide_eq_true_eq]
  refine ⟨fun fits => ⟨fits.1, fits.2.1⟩, fun fits => ⟨fits.1, fits.2, ?_⟩⟩
  exact (setLevelAvailable_iff.mp fits.1).2.2.2.2.2

/-- The current level itself is available where it is supported and its bit rate
is still offered. -/
theorem offers_iff_available (marked : level ∈ (icg.mark auto notify).level)
    (own : level.qosParam = current) (supported : level.isSupported) :
    (icg.mark auto notify).Offers auto current ↔ level.isAvailable := by
  subst own
  constructor
  · rintro ⟨duty, other, member, available, same⟩
    obtain ⟨before, -, rfl⟩ := mem_map.mp marked
    obtain ⟨twin, -, rfl⟩ := mem_map.mp member
    obtain ⟨-, ⟨bitrate, among, equal⟩, lower, upper, max, -⟩ :=
      setLevelAvailable_iff.mp available
    simp only [setLevelAvailable] at same
    rw [same] at equal lower upper max
    exact setLevelAvailable_iff.mpr
      ⟨supported, ⟨bitrate, among, equal⟩, lower, upper, max, duty⟩
  · intro available
    refine ⟨?_, level, marked, available, rfl⟩
    obtain ⟨before, -, rfl⟩ := mem_map.mp marked
    exact (setLevelAvailable_iff.mp available).2.2.2.2.2

theorem paramNotifyInner_best (accepts : icg.Accepts auto notify)
    (now : icg.qosParam = some current) (free : icg.updatedQosParam = none)
    (sorted : icg.level.Pairwise fun first second =>
      second.qosParam.downwardBitrate ≤ first.qosParam.downwardBitrate) :
    let after := (icg.paramNotifyInner auto notify).1
    let stays := after.Offers auto current ∨ ∀ level ∈ after.level,
      level.isAvailable →
        current.downwardBitrate < level.qosParam.downwardBitrate
    Forall₂ (fun before level =>
        level = { before with isAvailable := level.isAvailable } ∧
        (level.isAvailable ↔ after.Admits auto before))
      icg.level after.level ∧
    after.qosParam = icg.qosParam ∧
    (after.updateStatus = updateNone ∧ after.updatedQosParam = none ↔ stays) ∧
    (¬ stays → after.Best current) ∧
    ∀ level ∈ after.level, level.qosParam = current → level.isSupported →
      (after.Offers auto current ↔ level.isAvailable) := by
  rw [paramNotifyInner_accepted accepts now]
  have idle : (icg.mark auto notify).updateStatus = updateNone := accepts.idle
  have vacant : (icg.mark auto notify).updatedQosParam = none := free
  have now : (icg.mark auto notify).qosParam = some current := now
  by_cases offers : (icg.mark auto notify).Offers auto current
  · rw [handle_offered now offers]
    exact ⟨forall₂_mark, rfl, iff_of_true ⟨idle, vacant⟩ (.inl offers),
      fun moves => absurd (.inl offers) moves,
      fun level marked own supported =>
        offers_iff_available marked own supported⟩
  rw [handle_unoffered now vacant offers]
  cases found : (icg.mark auto notify).level.find? (Fitting auto current) with
  | none =>
    have above : ∀ level ∈ (icg.mark auto notify).level, level.isAvailable →
        current.downwardBitrate < level.qosParam.downwardBitrate := by
      intro level member available
      by_contra below
      exact find?_eq_none.mp found level member
        ((fitting_iff member).mpr ⟨available, UInt16.not_lt.mp below⟩)
    exact ⟨forall₂_mark, rfl, iff_of_true ⟨idle, vacant⟩ (.inr above),
      fun moves => absurd (.inr above) moves,
      fun level marked own supported =>
        offers_iff_available marked own supported⟩
  | some level =>
    obtain ⟨fits, before, behind, split, passed⟩ :=
      find?_eq_some_iff_append.mp found
    have inside : level ∈ (icg.mark auto notify).level := by simp [split]
    obtain ⟨available, le⟩ := (fitting_iff inside).mp fits
    have above (other : QosLevelLabel) (member : other ∈ before)
        (offered : other.isAvailable) :
        current.downwardBitrate < other.qosParam.downwardBitrate := by
      have among : other ∈ (icg.mark auto notify).level := by
        simp [split, member]
      by_contra below
      have := passed other member
      simp [(fitting_iff among).mpr ⟨offered, UInt16.not_lt.mp below⟩] at this
    have sorted : (icg.mark auto notify).level.Pairwise fun first second =>
        second.qosParam.downwardBitrate ≤ first.qosParam.downwardBitrate :=
      pairwise_map.mpr sorted
    rw [split, pairwise_append, pairwise_cons] at sorted
    have moves : ¬ ((icg.mark auto notify).Offers auto current ∨
        ∀ level ∈ (icg.mark auto notify).level, level.isAvailable →
          current.downwardBitrate < level.qosParam.downwardBitrate) := by
      rintro (offered | higher)
      · exact offers offered
      · exact UInt16.not_lt.mpr le (higher level inside available)
    refine ⟨forall₂_mark, rfl, iff_of_false (fun ⟨_, nothing⟩ => nomatch nothing)
      moves, fun _ => ⟨by simp [idle]; rfl, rfl, before, level, behind, split,
        available, le, above, fun other member offered below => ?_, rfl, rfl⟩,
      fun level marked own supported =>
        offers_iff_available marked own supported⟩
    rw [split] at member
    rcases mem_append.mp member with early | late
    · exact absurd (above other early offered) (UInt16.not_lt.mpr below)
    · rcases mem_cons.mp late with rfl | later
      · exact UInt16.le_refl _
      · exact sorted.2.1.1 other later

/-- A group on the first level, which is not supported though the second, of the
same bit rate, is. -/
def twins : IcgInfo where
  icbType := .iob
  qosIndex := .audio
  level :=
    [{ isSupported := false, qosParam := ⟨0, 320⟩, labelId := 0 },
      { isSupported := true, qosParam := ⟨dutyCycleAny, 320⟩, labelId := 1 }]
  earphoneBitrate := [320]
  link := [.success]
  qosParam := some ⟨0, 320⟩

theorem twins_stay :
    twins.Accepts {} ⟨.fiveG, []⟩ ∧ twins.updatedQosParam = none ∧
    (∃ level ∈ twins.level, twins.qosParam = some level.qosParam) ∧
    (twins.level.Pairwise fun first second =>
      second.qosParam.downwardBitrate ≤ first.qosParam.downwardBitrate) ∧
    let after := (twins.paramNotifyInner {} ⟨.fiveG, []⟩).1
    after.updateStatus = updateNone ∧
    after.updatedQosParam = none ∧ after.qosParam = twins.qosParam ∧
    (∀ level ∈ after.level, after.qosParam = some level.qosParam →
      ¬ level.isAvailable) ∧
    ∃ level ∈ after.level, level.isAvailable ∧
      level.qosParam.downwardBitrate ≤ 320 :=
  ⟨⟨by decide, by decide, by decide, by decide, by decide, by decide⟩,
    by decide, by decide, by decide, by decide, by decide, by decide,
    by decide, by decide⟩

/-- The first level is above what coexistence allows from now on. -/
def aboveLimit : IcgInfo where
  icbType := .iob
  qosIndex := .audio
  level :=
    [{ isSupported := true, qosParam := ⟨0, 320⟩, labelId := 0 },
      { isSupported := true, qosParam := ⟨dutyCycleAny, 192⟩, labelId := 1 }]
  earphoneBitrate := [192, 320]
  link := [.success]
  qosParam := some ⟨0, 320⟩

theorem aboveLimit_best :
    (aboveLimit.paramNotifyInner { maxBitrate := 200 }
      ⟨.coexist, []⟩).1.Best ⟨0, 320⟩ :=
  (paramNotifyInner_best
    ⟨by decide, by decide, by decide, by decide, by decide, by decide⟩ rfl rfl
    (by decide)).2.2.2.1 (by unfold Offers; decide)

end IcgInfo

end NearLink.Qosm
