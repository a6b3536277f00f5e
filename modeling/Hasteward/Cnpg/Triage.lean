import Hasteward.Go.Strings
import Hasteward.Common

/-!
# CNPG triage: reading control data, and the split-brain verdict

`engine/cnpg/triage.go` collects one `controlData` record per instance (from `pg_controldata` run
in the pod, in a probe pod over its volume, or a record of `"unknown"`s when neither worked) and
then judges them.  This file is the judging half, `triageAnalyze`:

* `crossInstanceComparison` walks the records once, keeping a running maximum timeline, and
  raises a split-brain flag for every instance found ahead of the primary.  The loop is the fold
  of `scanStep` over the records, with its state `Scan` made explicit, so that the invariant in
  `Hasteward.Cnpg.SplitBrain` can be stated about one step.
* `buildAssessments` gives every record a verdict by the eight-way switch of the source.  The
  switch is split in two, as it reads: `Facts.case` picks the first case whose condition holds
  (the conditions computed once per record in `Facts`), and `verdict` is that case's body.

The input, `TriageData`, is what `triageCollect` hands over: pod classifications, the records,
streaming replicas, disk usage and volume claim states.  The primary's record and timeline are
not free: `triageCollect` derives them from the records and the cluster's `currentPrimary`,
and so does `TriageData.primary`.

Every text field of a record comes out of `parseControlData`, which trims it, or is the literal
`"unknown"`; `ControlData` carries that as two fields, `Go.Trimmed`.
-/

set_option autoImplicit false

namespace Hasteward
namespace Cnpg

open Go

/-! ## Records and the triage input -/

/-- `controlData`: what triage knows of one instance's `pg_controldata`.  `source` is `"exec"`,
`"pvc_probe"` or `"none"`.  The display-only fields are left out. -/
structure ControlData where
  pod : String
  source : String
  timeline : String
  checkpointLocation : String
  crashReason : String
  timeline_trimmed : Trimmed timeline
  checkpointLocation_trimmed : Trimmed checkpointLocation

/-- The record `triageCollect` falls back on when the current primary has none. -/
def ControlData.unknown : ControlData where
  pod := ""
  source := ""
  timeline := "unknown"
  checkpointLocation := "unknown"
  crashReason := ""
  timeline_trimmed := by decide
  checkpointLocation_trimmed := by decide

/-- `triageData`, as `triageAnalyze` reads it.  Go maps are total functions here, a missing key
reading as the zero value. -/
structure TriageData where
  runningPods : List String
  missingInstances : List String
  crashloopPods : List String
  controlData : List ControlData
  streamingReplicas : List String
  diskUsage : String → Int
  pvcStates : String → String

/-- The fields of the CNPG `Cluster` resource that triage reads. -/
structure Cluster where
  currentPrimary : String
  instances : Int
  readyInstances : Int
  phase : String

/-- `data.primaryControlData` and `data.primaryTimeline`, as `triageCollect` sets them: the first
record of the current primary and its trimmed timeline, or the `"unknown"` record. -/
def TriageData.primary (data : TriageData) (currentPrimary : String) : ControlData × String :=
  match data.controlData.find? (·.pod == currentPrimary) with
  | some cd => (cd, trimSpace cd.timeline)
  | none => (ControlData.unknown, "unknown")

/-! ## Reading LSNs and timelines -/

/-- `parseLSNValue`: `"hi/lo"` in hexadecimal as `hi * 2^32 + lo`, computed in `int64`; `0` for
the empty string, `"unknown"`, and anything that does not parse. -/
def parseLSNValue (lsn : String) : Int :=
  if lsn = "" ∨ lsn = "unknown" then 0
  else
    match lsn.splitOn "/" with
    | [hi, lo] =>
      match parseInt 16 hi, parseInt 16 lo with
      | some h, some l => wrapInt64 (h * 4294967296 + l)
      | _, _ => 0
    | _ => 0

/-- `parseTimelineInt`: the trimmed text in decimal; `0` for `""`, `"unknown"` and errors. -/
def parseTimelineInt (tl : String) : Int :=
  let tl := trimSpace tl
  if tl = "" ∨ tl = "unknown" then 0 else (parseInt 10 tl).getD 0

theorem parseTimelineInt_trimSpace (s : String) :
    parseTimelineInt (trimSpace s) = parseTimelineInt s := by
  simp only [parseTimelineInt, trimSpace_trimSpace]

/-! ## `crossInstanceComparison` -/

/-- The variables of `crossInstanceComparison`'s loop. -/
structure Scan where
  mostAdvanced : String
  mostAdvancedTL : Int
  mostAdvancedLSN : String
  splitBrain : List String

/-- One iteration of the loop: skip the primary and unknown timelines; a timeline above the
running maximum becomes the maximum and raises a flag; on the running maximum's timeline, an LSN
above the *primary's* raises a flag. -/
def scanStep (primaryName : String) (pTL : Int) (pLSN : String) (st : Scan) (inst : ControlData) :
    Scan :=
  if inst.pod = primaryName ∨ inst.timeline = "unknown" then st
  else
    let instTL := parseTimelineInt inst.timeline
    if instTL > st.mostAdvancedTL then
      { mostAdvanced := inst.pod, mostAdvancedTL := instTL,
        mostAdvancedLSN := inst.checkpointLocation,
        splitBrain := st.splitBrain ++ [inst.pod ++ " has timeline " ++ inst.timeline ++
          " > primary timeline " ++ toString pTL] }
    else if instTL = st.mostAdvancedTL ∧ inst.checkpointLocation ≠ "unknown" ∧
        pLSN ≠ "unknown" then
      if parseLSNValue inst.checkpointLocation > parseLSNValue pLSN then
        { st with splitBrain := st.splitBrain ++ [inst.pod ++ " LSN " ++ inst.checkpointLocation ++
          " ahead of primary " ++ pLSN ++ " on same timeline"] }
      else st
    else st

/-- The primary's timeline and checkpoint LSN as `crossInstanceComparison` reads them. -/
def primaryMark (data : TriageData) (primaryName : String) : Int × String :=
  (parseTimelineInt (data.primary primaryName).2, (data.primary primaryName).1.checkpointLocation)

/-- The loop of `crossInstanceComparison`, from the primary's values. -/
def scan (data : TriageData) (primaryName : String) : Scan :=
  let (pTL, pLSN) := primaryMark data primaryName
  data.controlData.foldl (scanStep primaryName pTL pLSN) ⟨primaryName, pTL, pLSN, []⟩

/-- `crossInstanceComparison`.  `primaryControlData` is never nil once collected, so the
primary's values are always those of `TriageData.primary`. -/
def crossInstanceComparison (data : TriageData) (primaryName : String) : DataComparison :=
  let (pTL, pLSN) := primaryMark data primaryName
  let st := scan data primaryName
  let safe := st.splitBrain.isEmpty
  { mostAdvanced := st.mostAdvanced
    mostAdvancedValue := st.mostAdvancedTL
    checkpointLocation := st.mostAdvancedLSN
    safeToHeal := safe
    warnings :=
      if safe then
        ["OK: Primary " ++ primaryName ++ " has the most recent data (timeline " ++ toString pTL ++
          ", LSN " ++ pLSN ++ ")"]
      else st.splitBrain.map ("SPLIT-BRAIN RISK: " ++ ·)
    splitBrainDetails := st.splitBrain }

/-! ## `buildAssessments` -/

/-- The conditions `buildAssessments` computes for one record before its switch. -/
structure Facts where
  isPrimary : Bool
  isMissing : Bool
  isCrashloop : Bool
  isStreaming : Bool
  diskFull : Bool
  diskPct : Int
  hasData : Bool
  instTL : String
  instLSN : String
  sameTL : Bool
  behindTL : Bool
  behindLSN : Bool
  aheadLSN : Bool
  aheadTL : Bool

/-- The conditions for `inst`, against the primary's timeline `pTL` and LSN `pLSN`. -/
def facts (data : TriageData) (primaryName pTL pLSN : String) (inst : ControlData) : Facts :=
  let pLSNVal := parseLSNValue pLSN
  let instTL := trimSpace inst.timeline
  let instLSN := trimSpace inst.checkpointLocation
  let instLSNVal := parseLSNValue instLSN
  let sameTL := instTL == pTL && instTL != "unknown"
  { isPrimary := inst.pod == primaryName
    isMissing := data.missingInstances.contains inst.pod
    isCrashloop := data.crashloopPods.contains inst.pod
    isStreaming := data.streamingReplicas.contains inst.pod
    diskFull := inst.crashReason == "disk_full"
    diskPct := data.diskUsage inst.pod
    hasData := inst.source != "none"
    instTL := instTL
    instLSN := instLSN
    sameTL := sameTL
    behindTL := instTL != "unknown" && pTL != "unknown" &&
      decide (parseTimelineInt instTL < parseTimelineInt pTL)
    behindLSN := sameTL && decide (instLSNVal < pLSNVal)
    aheadLSN := sameTL && decide (instLSNVal > pLSNVal)
    aheadTL := instTL != "unknown" && pTL != "unknown" &&
      decide (parseTimelineInt instTL > parseTimelineInt pTL) }

/-- The cases of `buildAssessments`' switch, in source order. -/
inductive Case
  | primary
  | splitBrain
  | noData
  | behindTimeline
  | streamingBehind
  | behindLSN
  | current
  | unknownTimeline
  deriving DecidableEq, Repr

/-- Which case of the switch decides a record: the first whose condition holds. -/
def Facts.case (f : Facts) (safeToHeal : Bool) : Case :=
  if f.isPrimary then .primary
  else if !safeToHeal then .splitBrain
  else if !f.hasData then .noData
  else if f.behindTL then .behindTimeline
  else if f.sameTL && f.behindLSN && f.isStreaming then .streamingBehind
  else if f.sameTL && f.behindLSN then .behindLSN
  else if f.sameTL && !f.behindLSN then .current
  else .unknownTimeline

/-- What the switch decides for one record. -/
structure Verdict where
  notes : List String
  recommendation : String
  needsHeal : Bool

/-- The last `-`-separated part of a pod name: the replica number in the suggested command. -/
def replicaNum (pod : String) : String := ((pod.splitOn "-").getLast?).getD ""

/-- The body of each case of the switch. -/
def verdict (cfg : Config) (data : TriageData) (safeToHeal : Bool) (pTL pLSN : String)
    (pod : String) (f : Facts) : Verdict :=
  let healCmd := "hasteward repair -e cnpg -c " ++ cfg.clusterName ++ " -n " ++ cfg.ns ++
    " --instance " ++ replicaNum pod ++ " --backups-path /backups"
  match f.case safeToHeal with
  | .primary =>
    if f.diskFull || decide (f.diskPct ≥ 90) then
      ⟨["PRIMARY - disk full/low"],
        "Primary disk is full. Expand PVC storage in the Cluster spec.", false⟩
    else ⟨["PRIMARY - healthy"], "No action needed.", false⟩
  | .splitBrain =>
    if f.aheadTL || f.aheadLSN then
      ⟨["AHEAD OF PRIMARY - potential split-brain"],
        "MANUAL REVIEW REQUIRED. This instance has data ahead of the primary. " ++
          "Do NOT heal without understanding the data state. " ++
          "Consider promoting this instance or performing manual data recovery.", false⟩
    else if !f.hasData then
      ⟨["NO DATA - cannot assess during split-brain"],
        "MANUAL REVIEW REQUIRED. Cannot determine this instance state. " ++
          "Resolve split-brain first.", false⟩
    else
      ⟨["behind primary but split-brain detected elsewhere"],
        "MANUAL REVIEW REQUIRED. Split-brain detected in cluster. " ++
          "Resolve the split-brain before healing any replicas.", false⟩
  | .noData =>
    let pvcSt := data.pvcStates pod
    ⟨["NO DATA - could not probe PVC", "PVC: " ++ pvcSt],
      if pvcSt = "MISSING" then "PVC is missing. Check CNPG operator logs."
      else "Could not probe PVC data. Check if pod can be scheduled and PVC can be mounted.",
      false⟩
  | .behindTimeline =>
    ⟨["behind: timeline " ++ f.instTL ++ " < primary " ++ pTL] ++
        (if f.diskFull then ["disk full (WAL accumulation from being stuck)"] else []),
      "Needs heal (pg_basebackup). Cannot catch up via streaming - different timeline.\n\n  " ++
        healCmd, true⟩
  | .streamingBehind =>
    if f.diskPct ≥ 90 then
      ⟨["healthy (streaming, checkpoint LSN slightly behind - normal)",
          "disk low (" ++ toString f.diskPct ++ "%)"],
        "Streaming OK but disk usage is high. Consider expanding PVC storage.", false⟩
    else
      ⟨["healthy (streaming, checkpoint LSN slightly behind - normal)"],
        "No action needed.", false⟩
  | .behindLSN =>
    let note := "same timeline, behind by LSN (" ++ f.instLSN ++ " < " ++ pLSN ++ "), not streaming"
    if f.diskFull then
      ⟨[note, "disk full (WAL accumulation from being stuck)"],
        "Needs heal. Same timeline but disk full prevents catch-up.\n\n  " ++ healCmd, true⟩
    else if f.isMissing then
      ⟨[note, "no pod running"],
        "Pod missing but data is on correct timeline. " ++
          "CNPG should recreate the pod. If it does not, check cluster phase. " ++
          "May catch up via streaming if WAL is still available.", false⟩
    else if f.isCrashloop then
      ⟨[note, "crash-looping"],
        "Same timeline but crash-looping. Check pod logs for root cause. " ++
          "If WAL is still available, may recover on restart. " ++
          "Otherwise needs heal.\n\n  " ++ healCmd, false⟩
    else
      ⟨[note],
        "Not streaming. May catch up if WAL is still available. " ++
          "Check replication slots above - if the slot has no restart_lsn, " ++
          "WAL has been discarded and a heal is needed.\n\n  " ++ healCmd, true⟩
  | .current =>
    if f.isMissing then
      ⟨["data current but no pod"],
        "Data is current. CNPG should recreate the pod. If it does not, check cluster phase.",
        false⟩
    else if f.isCrashloop then
      ⟨["data current but crash-looping"],
        "Data is current but pod is crash-looping. Check pod logs for root cause.", false⟩
    else if f.diskPct ≥ 90 then
      ⟨["healthy but disk low (" ++ toString f.diskPct ++ "%)"],
        "Healthy but disk usage is high. Consider expanding PVC storage.", false⟩
    else ⟨["healthy"], "No action needed.", false⟩
  | .unknownTimeline =>
    ⟨["timeline unknown"], "Could not determine timeline. Check instance manually.", false⟩

/-- The assessment `buildAssessments` appends for one record: it sets `Pod`, `IsPrimary`,
`Timeline`, `LSN`, `Notes`, `Recommendation` and `NeedsHeal`, and nothing else. -/
def assess (cfg : Config) (data : TriageData) (comparison : DataComparison)
    (primaryName : String) (inst : ControlData) : InstanceAssessment :=
  let pTL := (data.primary primaryName).2
  let pLSN := trimSpace (data.primary primaryName).1.checkpointLocation
  let f := facts data primaryName pTL pLSN inst
  let v := verdict cfg data comparison.safeToHeal pTL pLSN inst.pod f
  { pod := inst.pod
    isPrimary := f.isPrimary
    timeline := parseTimelineInt f.instTL
    lsn := f.instLSN
    notes := v.notes
    recommendation := v.recommendation
    needsHeal := v.needsHeal }

/-- `buildAssessments`: one assessment per record, in order. -/
def buildAssessments (cfg : Config) (data : TriageData) (comparison : DataComparison)
    (primaryName : String) : List InstanceAssessment :=
  data.controlData.map (assess cfg data comparison primaryName)

/-- `triageAnalyze`. -/
def triageAnalyze (cfg : Config) (cl : Cluster) (data : TriageData) : TriageResult :=
  let comparison := crossInstanceComparison data cl.currentPrimary
  { assessments := buildAssessments cfg data comparison cl.currentPrimary
    dataComparison := comparison
    clusterPhase := cl.phase
    readyCount := if cl.readyInstances > 0 then cl.readyInstances else 0
    totalCount := cl.instances }

end Cnpg
end Hasteward
