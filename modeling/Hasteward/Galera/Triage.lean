import Hasteward.Go.Strings
import Hasteward.Common

/-!
# Galera triage: effective seqnos, the split-brain verdict, and per-node verdicts

The Galera half of triage, after collection.  Three pieces of `engine/galera/triage.go`:

* The end of `triageCollect`, which derives from the collected evidence the *effective seqno* of
  every node — the largest of four candidates: `wsrep_last_committed`, the operator's
  `galeraRecovery.recovered` and `galeraRecovery.state`, and `grastate.dat` — together with the
  most advanced node and the members of the Primary component (`effectiveSeqno`, `bestSeqno`,
  `primaryMembers`).
* `crossInstanceComparison`, which raises split-brain flags of three kinds, in this order: more
  than one cluster UUID, a node whose `wsrep_cluster_status` is neither empty nor `Primary`, and
  — only when the Primary component is not empty — a node outside it whose effective seqno is
  positive and above the component's best.  The three lists are `uuidFlags`, `statusFlags` and
  `seqnoFlags`.
* `buildAssessments`, whose switch is split, as in `Hasteward.Cnpg.Triage`, into the choice of
  the first case that holds (`Facts.case`) and that case's body (`verdict`).

Go maps become lists of pairs.  The two the code iterates, the wsrep statuses and the grastate
records keyed by pod, have one entry per pod in every collected input, and `TriageData` carries
that as two fields; iteration order is list order, one of the orders Go may choose.  The
operator's recovery maps are read only by pod, so they are functions from the pod to the text of
its `seqno`.
-/

set_option autoImplicit false

namespace Hasteward
namespace Galera

open Go

/-! ## Collected evidence -/

/-- `grastate`: the parsed `grastate.dat` of one node.  `source` is `"exec"`, `"exec_crashloop"`,
`"pvc_probe"` or `"none"`. -/
structure Grastate where
  pod : String
  source : String
  uuid : String
  seqno : String
  safeToBootstrap : String
  deriving DecidableEq, Repr

/-- `wsrepStatus`, the node's `wsrep_*` globals.  The defaults are Go's zero values: a failed
query stores `&wsrepStatus{}`, so `lastCommitted` is `0` there, while `parseWsrepStatus` starts
it at `-1`.  The display-only fields are left out. -/
structure WsrepStatus where
  localState : Int := 0
  localStateComment : String := ""
  clusterStatus : String := ""
  connected : String := ""
  ready : String := ""
  clusterStateUUID : String := ""
  lastCommitted : Int := 0
  deriving DecidableEq, Repr

/-- `galeraTriageData`, as the analysis reads it.  `wsrepMap` holds an entry for each running pod
that is not crash-looping; a pod has at most one entry there and one grastate record. -/
structure TriageData where
  runningPods : List String
  missingNodes : List String
  crashloopPods : List String
  grastateData : List Grastate
  wsrepMap : List (String × WsrepStatus)
  diskUsage : String → Int
  crashReasons : String → String
  grastate_nodup : (grastateData.map (·.pod)).Nodup
  wsrep_nodup : (wsrepMap.map (·.1)).Nodup

/-- The fields of the `MariaDB` resource triage reads: `spec.replicas`, and the text of each
pod's `seqno` under `status.galeraRecovery.recovered` and `.state`. -/
structure MariaDB where
  replicas : Int
  recovered : String → Option String
  state : String → Option String

/-! ## Effective seqnos -/

/-- `parseInt64`: the trimmed text in decimal, or `fallback`. -/
def parseInt64 (s : String) (fallback : Int) : Int := (parseInt 10 (trimSpace s)).getD fallback

/-- `getRecoverySeqno`: the seqno the operator recorded for `pod`, or `-1`. -/
def getRecoverySeqno (m : String → Option String) (pod : String) : Int :=
  match m pod with
  | some s => parseInt64 s (-1)
  | none => -1

/-- `effectiveSeqno`: a value and the name of the candidate it came from. -/
structure EffectiveSeqno where
  value : Int
  source : String
  deriving DecidableEq, Repr

/-- The effective seqno of a node: the largest of the four candidates, the first to reach it
naming the source; `-1` from `"none"` when no candidate is above `-1`. -/
def effectiveSeqno (mdb : MariaDB) (data : TriageData) (gs : Grastate) : EffectiveSeqno :=
  let wsCommitted := match data.wsrepMap.lookup gs.pod with
    | some ws => ws.lastCommitted
    | none => -1
  let candidates : List (Int × String) :=
    [(wsCommitted, "wsrep_last_committed"), (getRecoverySeqno mdb.recovered gs.pod, "cr_recovered"),
      (getRecoverySeqno mdb.state gs.pod, "cr_state"), (parseInt64 gs.seqno (-1), "grastate")]
  let best := candidates.foldl (fun b c => if c.1 > b.1 then c else b) (-1, "none")
  ⟨best.1, best.2⟩

/-- `data.effectiveSeqnos`: the effective seqno of every node with a grastate record. -/
def effectiveSeqnos (mdb : MariaDB) (data : TriageData) : List (String × EffectiveSeqno) :=
  data.grastateData.map fun gs => (gs.pod, effectiveSeqno mdb data gs)

/-- `data.bestSeqnoNode` and `data.bestSeqnoValue`: the first node with the largest effective
seqno, from `("", -2)`. -/
def bestSeqno (mdb : MariaDB) (data : TriageData) : String × Int :=
  data.grastateData.foldl
    (fun b gs => if (effectiveSeqno mdb data gs).value > b.2 then
      (gs.pod, (effectiveSeqno mdb data gs).value) else b) ("", -2)

/-- `data.primaryMembers`: the pods whose `wsrep_cluster_status` is `Primary`. -/
def primaryMembers (data : TriageData) : List String :=
  (data.wsrepMap.filter (·.2.clusterStatus == "Primary")).map (·.1)

/-! ## `crossInstanceComparison` -/

/-- The UUIDs the node reports: grastate UUIDs other than `unknown` and all zeros, and non-empty
`wsrep_cluster_state_uuid` values, without repetition. -/
def uuidSet (data : TriageData) : List String :=
  (((data.grastateData.filter fun gs =>
        gs.uuid != "unknown" && gs.uuid != "00000000-0000-0000-0000-000000000000").map (·.uuid)) ++
    ((data.wsrepMap.filter fun p => p.2.clusterStateUUID != "").map (·.2.clusterStateUUID))).dedup

/-- The UUID divergence flag. -/
def uuidFlags (data : TriageData) : List String :=
  if (uuidSet data).length > 1 then
    ["Multiple cluster UUIDs detected: " ++ ", ".intercalate (uuidSet data)]
  else []

/-- The non-primary component flags: one per node whose status is neither empty nor `Primary`. -/
def statusFlags (data : TriageData) : List String :=
  (data.wsrepMap.filter fun p => p.2.clusterStatus != "" && p.2.clusterStatus != "Primary").map
    fun p => p.1 ++ " cluster_status=" ++ p.2.clusterStatus

/-- One iteration of the loop over the Primary component: a member with a recorded seqno above
the best so far becomes the best. -/
def bestPrimaryStep (mdb : MariaDB) (data : TriageData) (b : Int × String) (pm : String) :
    Int × String :=
  match (effectiveSeqnos mdb data).lookup pm with
  | some es => if es.value > b.1 then (es.value, pm) else b
  | none => b

/-- `bestPrimarySeqno` and `bestPrimaryPod`: the largest effective seqno among the Primary
component, from `(-2, "")`. -/
def bestPrimary (mdb : MariaDB) (data : TriageData) : Int × String :=
  (primaryMembers data).foldl (bestPrimaryStep mdb data) (-2, "")

/-- A node outside the Primary component is ahead of it when its effective seqno is positive and
above the component's best. -/
def aheadOfComponent (mdb : MariaDB) (data : TriageData) (p : String × EffectiveSeqno) : Bool :=
  !(primaryMembers data).contains p.1 && decide (p.2.value > (bestPrimary mdb data).1) &&
    decide (p.2.value > 0)

/-- The seqno flags, computed only when the Primary component is not empty. -/
def seqnoFlags (mdb : MariaDB) (data : TriageData) : List String :=
  if (primaryMembers data).isEmpty then []
  else ((effectiveSeqnos mdb data).filter (aheadOfComponent mdb data)).map fun p =>
    p.1 ++ " has seqno " ++ toString p.2.value ++ " > primary best " ++
      toString (bestPrimary mdb data).1 ++ " (" ++ (bestPrimary mdb data).2 ++ ")"

/-- `crossInstanceComparison`. -/
def crossInstanceComparison (mdb : MariaDB) (data : TriageData) : DataComparison :=
  let splitBrain := uuidFlags data ++ statusFlags data ++ seqnoFlags mdb data
  let safe := splitBrain.isEmpty
  let pms := primaryMembers data
  { mostAdvanced := (bestSeqno mdb data).1
    mostAdvancedValue := (bestSeqno mdb data).2
    safeToHeal := safe
    warnings :=
      if safe then
        if !pms.isEmpty then
          ["OK: Primary component (" ++ ", ".intercalate pms ++
            ") has the most recent data (best seqno: " ++ toString (bestPrimary mdb data).1 ++ ")"]
        else
          ["WARNING: No nodes in Primary component. Most advanced: " ++ (bestSeqno mdb data).1 ++
            " (seqno: " ++ toString (bestSeqno mdb data).2 ++ ")"]
      else splitBrain.map ("SPLIT-BRAIN RISK: " ++ ·)
    splitBrainDetails := splitBrain
    primaryMembers := pms
    bestPrimarySeqno := (bestPrimary mdb data).1 }

/-! ## `buildAssessments` -/

/-- The values `buildAssessments` computes for one node before its switch.  `ws` is the node's
wsrep entry, `none` for Go's `nil`. -/
structure Facts where
  isMissing : Bool
  isCrashloop : Bool
  isRunning : Bool
  isInPrimary : Bool
  hasData : Bool
  ws : Option WsrepStatus
  wsState : Int
  wsStateComment : String
  wsConnected : String
  wsReady : String
  wsClusterStatus : String
  nodeSeqno : Int
  seqnoSource : String
  seqnoLag : Int
  diskPct : Int
  diskFull : Bool
  dataCurrent : Bool

/-- The values for the node of `gs`, against the component's best seqno `bestPrimarySeqno`. -/
def facts (mdb : MariaDB) (data : TriageData) (bestPrimarySeqno : Int) (gs : Grastate) : Facts :=
  let isCrashloop := data.crashloopPods.contains gs.pod
  let ws := data.wsrepMap.lookup gs.pod
  let es := (effectiveSeqnos mdb data).lookup gs.pod
  let nodeSeqno := match es with | some e => e.value | none => -1
  let seqnoLag := if bestPrimarySeqno > 0 ∧ nodeSeqno > 0 then bestPrimarySeqno - nodeSeqno else -1
  { isMissing := data.missingNodes.contains gs.pod
    isCrashloop := isCrashloop
    isRunning := data.runningPods.contains gs.pod && !isCrashloop
    isInPrimary := (primaryMembers data).contains gs.pod
    hasData := gs.source != "none"
    ws := ws
    wsState := match ws with | some w => w.localState | none => 0
    wsStateComment := match ws with | some w => w.localStateComment | none => "unknown"
    wsConnected := match ws with | some w => w.connected | none => "OFF"
    wsReady := match ws with | some w => w.ready | none => "OFF"
    wsClusterStatus := match ws with | some w => w.clusterStatus | none => "unknown"
    nodeSeqno := nodeSeqno
    seqnoSource := match es with | some e => e.source | none => "none"
    seqnoLag := seqnoLag
    diskPct := data.diskUsage gs.pod
    diskFull := data.crashReasons gs.pod == "disk_full"
    dataCurrent := decide (nodeSeqno > 0) && decide (bestPrimarySeqno > 0) && decide (seqnoLag ≤ 0) }

/-- The cases of `buildAssessments`' switch, in source order. -/
inductive Case
  | splitBrain
  | synced
  | transitional
  | disconnected
  | nonPrimary
  | noWsrep
  | crashloop
  | missingWithData
  | missingNoData
  | unknownState
  deriving DecidableEq, Repr

/-- Which case of the switch decides a node: the first whose condition holds. -/
def Facts.case (f : Facts) (safeToHeal : Bool) : Case :=
  if !safeToHeal then .splitBrain
  else if f.isRunning && f.wsState == 4 && f.wsConnected == "ON" && f.wsReady == "ON" &&
      f.wsClusterStatus == "Primary" then .synced
  else if f.isRunning && decide (1 ≤ f.wsState) && decide (f.wsState ≤ 3) &&
      f.wsConnected == "ON" then .transitional
  else if f.isRunning && (f.wsConnected == "OFF" || f.wsReady == "OFF") then .disconnected
  else if f.isRunning && f.wsClusterStatus != "Primary" && f.wsClusterStatus != "unknown" then
    .nonPrimary
  else if f.isRunning && f.ws.isNone then .noWsrep
  else if f.isCrashloop then .crashloop
  else if f.isMissing && f.hasData then .missingWithData
  else if f.isMissing then .missingNoData
  else .unknownState

/-- What the switch decides for one node. -/
structure Verdict where
  notes : List String
  recommendation : String
  needsHeal : Bool

/-- The last `-`-separated part of a pod name: the node number in the suggested command. -/
def nodeNum (pod : String) : String := ((pod.splitOn "-").getLast?).getD ""

/-- `["last known seqno: N"]` when the node's seqno is positive. -/
def lastKnown (f : Facts) : List String :=
  if f.nodeSeqno > 0 then ["last known seqno: " ++ toString f.nodeSeqno] else []

/-- The body of each case of the switch. -/
def verdict (cfg : Config) (bestPrimarySeqno : Int) (pod : String) (f : Facts) (c : Case) :
    Verdict :=
  let healCmd := "hasteward repair -e galera -c " ++ cfg.clusterName ++ " -n " ++ cfg.ns ++
    " --instance " ++ nodeNum pod ++ " --backups-path /backups"
  match c with
  | .splitBrain =>
    if !f.isInPrimary && f.nodeSeqno > bestPrimarySeqno && f.nodeSeqno > 0 then
      ⟨["AHEAD OF PRIMARY COMPONENT (seqno " ++ toString f.nodeSeqno ++ " > " ++
          toString bestPrimarySeqno ++ ")"],
        "MANUAL REVIEW REQUIRED. This node has data ahead of the primary component. " ++
          "Do NOT heal without understanding the data state.", false⟩
    else if !f.hasData then
      ⟨["NO DATA - cannot assess during split-brain"],
        "MANUAL REVIEW REQUIRED. Cannot determine this node state. Resolve split-brain first.",
        false⟩
    else
      ⟨["split-brain detected in cluster"],
        "MANUAL REVIEW REQUIRED. Split-brain detected. Resolve before healing.\n\n  " ++
          healCmd ++ " --force", false⟩
  | .synced =>
    if f.diskFull || decide (f.diskPct ≥ 90) then
      ⟨["healthy but disk low (" ++ toString f.diskPct ++ "%)"],
        "Synced and healthy but disk usage is high. Consider expanding PVC storage.", false⟩
    else
      ⟨["healthy (Synced, connected, ready)"] ++
          (if f.seqnoLag > 0 then ["seqno lag: " ++ toString f.seqnoLag ++ " behind best"] else []),
        "No action needed.", false⟩
  | .transitional =>
    ⟨["transitional (" ++ f.wsStateComment ++ ") - catching up"] ++
        (if f.seqnoLag > 0 then ["seqno lag: " ++ toString f.seqnoLag] else []),
      "Node is in transitional state (" ++ f.wsStateComment ++
        "). Wait for Synced (state 4). If stuck, may need heal.\n\n  " ++ healCmd, false⟩
  | .disconnected =>
    ⟨["disconnected (connected=" ++ f.wsConnected ++ ", ready=" ++ f.wsReady ++ ")"] ++
        (if f.diskFull then ["disk full (possible cause of disconnect)"] else []) ++ lastKnown f,
      "Node is disconnected from cluster. Needs heal (grastate wipe + SST rejoin).\n\n  " ++
        healCmd, true⟩
  | .nonPrimary =>
    ⟨["non-primary component (" ++ f.wsClusterStatus ++ ")"],
      "Node is in non-primary component. Needs heal.\n\n  " ++ healCmd, true⟩
  | .noWsrep =>
    ⟨["running but wsrep query failed"] ++ lastKnown f,
      "Could not query wsrep status. MariaDB may not be accepting connections. Needs heal.\n\n  " ++
        healCmd, true⟩
  | .crashloop =>
    if f.diskFull then
      ⟨["crash-looping", "disk full (cause of crash)"],
        "Crash-looping due to disk full. Needs heal or PVC expansion.\n\n  " ++ healCmd, true⟩
    else if f.dataCurrent then
      ⟨["crash-looping", "data current (seqno: " ++ toString f.nodeSeqno ++ ")"],
        "Data is current but pod is crash-looping. Check pod logs for root cause. " ++
          "May recover on restart. Otherwise needs heal.\n\n  " ++ healCmd, false⟩
    else
      ⟨["crash-looping"] ++ lastKnown f,
        "Pod is crash-looping with stale data. Needs heal.\n\n  " ++ healCmd, true⟩
  | .missingWithData =>
    if f.dataCurrent then
      ⟨["no pod running", "data current (seqno: " ++ toString f.nodeSeqno ++ ")"],
        "Data is current. MariaDB operator should recreate the pod. " ++
          "If stuck, check MariaDB CR status.", false⟩
    else
      ⟨["no pod running"] ++ lastKnown f,
        "Pod missing with stale data. MariaDB operator should recreate. " ++
          "If stuck, needs heal.\n\n  " ++ healCmd, true⟩
  | .missingNoData =>
    ⟨["NO DATA - no pod, could not probe PVC"],
      "Could not determine state. Check if PVC can be mounted.", false⟩
  | .unknownState =>
    ⟨["unknown state"], "Could not determine state. Check node manually.", false⟩

/-- The assessment `buildAssessments` appends for one node.  It sets every field but `Instance`
and the CNPG-only ones. -/
def assess (cfg : Config) (mdb : MariaDB) (data : TriageData) (comparison : DataComparison)
    (gs : Grastate) : InstanceAssessment :=
  let f := facts mdb data comparison.bestPrimarySeqno gs
  let v := verdict cfg comparison.bestPrimarySeqno gs.pod f (f.case comparison.safeToHeal)
  { pod := gs.pod
    isRunning := f.isRunning
    isReady := f.isRunning && f.wsState == 4
    needsHeal := v.needsHeal
    notes := v.notes
    recommendation := v.recommendation
    isInPrimary := f.isInPrimary
    seqno := parseInt64 gs.seqno (-1)
    effectiveSeqno := f.nodeSeqno
    seqnoSource := f.seqnoSource
    seqnoLag := f.seqnoLag
    uuid := gs.uuid
    safeToBootstrap := gs.safeToBootstrap
    wsrepState := f.wsState
    wsrepStateComment := f.wsStateComment
    wsrepConnected := f.wsConnected
    wsrepReady := f.wsReady
    wsrepClusterStatus := f.wsClusterStatus
    crashReason := data.crashReasons gs.pod
    diskPct := f.diskPct }

theorem assess_needsHeal (cfg : Config) (mdb : MariaDB) (data : TriageData)
    (comparison : DataComparison) (gs : Grastate) :
    (assess cfg mdb data comparison gs).needsHeal =
      (verdict cfg comparison.bestPrimarySeqno gs.pod (facts mdb data comparison.bestPrimarySeqno gs)
        ((facts mdb data comparison.bestPrimarySeqno gs).case comparison.safeToHeal)).needsHeal :=
  rfl

/-- `buildAssessments`: one assessment per grastate record, in order. -/
def buildAssessments (cfg : Config) (mdb : MariaDB) (data : TriageData)
    (comparison : DataComparison) : List InstanceAssessment :=
  data.grastateData.map (assess cfg mdb data comparison)

/-- `triageAnalyze`. -/
def triageAnalyze (cfg : Config) (mdb : MariaDB) (data : TriageData) : TriageResult :=
  let comparison := crossInstanceComparison mdb data
  let assessments := buildAssessments cfg mdb data comparison
  { assessments := assessments
    dataComparison := comparison
    readyCount := (primaryMembers data).length
    totalCount := mdb.replicas
    allNodesDown := data.runningPods.isEmpty
    bestSeqnoNode := assessments.find? (·.pod == (bestSeqno mdb data).1) }

end Galera
end Hasteward
