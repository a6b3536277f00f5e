import Hasteward.Common

/-!
# The repair flow's calls, and the phases both engines share

`Repair`, in `engine/cnpg/repair.go` and in the Galera engine, is an orchestration: it reads the
triage result, asks the platform a few questions, and issues calls that act on the repository
(`BackupDump`) or on the cluster (`healInstance`, `healNode`).  What it guarantees is a property
of *which* calls it issues, in which order and with which arguments.  So the model returns its
calls as data: a run is a `Trace`, the list of calls made, each with the error the platform
answered (`none` for Go's `nil`), together with what `Repair` returns.

The platform is a parameter, `Platform`.  Its reads (`Pods(ns).Get`,
`PersistentVolumeClaims(ns).Get`) are made at most once in a run, so they are functions of their
argument; the error a call returns may depend on every call made before it.  A theorem that holds
for every `Platform` holds for every sequence of answers the cluster and the repository can give.

Two phases are the same text in both engines and are defined here once, in `Repair`:

* `Repair.divergedCaptures`, phase 2.6: a `diverged` `BackupDump` of every assessment that is
  running and ready, at `<ns>/<cluster>/<Instance>-<DumpFilename>`, tagged with the job; a
  failure is logged and skipped.  `divergedCaptures_calls` says exactly which calls it makes.
* `Repair.untargeted`, `repairUntargeted`: a hard stop on split-brain, then a heal of every
  assessment that needs one, in order, stopping at the first error.  `untargeted_calls` says
  that every call it makes heals an assessment that needs a heal, under `SafeToHeal`.

The escrow of phase 2.5 is shared as `Repair.escrow`; when it runs differs between the engines.
-/

set_option autoImplicit false

namespace Hasteward

/-! ## Calls and the platform -/

/-- A call of the repair flow that acts on the repository or on the cluster. -/
inductive Call
  /-- `BackupDump(ctx, backupType, donor, stdinFilename, jobTime, extraTags)`. -/
  | backupDump (backupType donor stdinFilename : String) (jobTime : Time)
      (extraTags : List (String × String))
  /-- CNPG's `healInstance(ctx, pod, pvc, hcfg)`. -/
  | healInstance (pod pvc : String)
  /-- Galera's `healNode(ctx, pod, instance)`. -/
  | healNode (pod : String) (instanceNum : Int)
  deriving DecidableEq, Repr

/-- The calls that destroy a member's data. -/
def Call.isHeal : Call → Bool
  | .healInstance .. | .healNode .. => true
  | .backupDump .. => false

/-- The pod whose data a call wipes: the target of a heal, none for a dump. -/
def Call.healedPod : Call → Option String
  | .healInstance pod _ | .healNode pod _ => some pod
  | .backupDump .. => none

theorem Call.isHeal_of_healedPod {c : Call} {pod : String} (h : c.healedPod = some pod) :
    c.isHeal = true := by
  cases c <;> simp_all [Call.healedPod, Call.isHeal]

/-- What a pod lookup returns that the flow reads: the phase, and the readiness of the first
container (`none` when the pod lists no container status). -/
structure PodStatus where
  phase : String
  ready : Option Bool
  deriving DecidableEq, Repr

/-- `pod.Status.Phase == "Running" && len(ContainerStatuses) > 0 && ContainerStatuses[0].Ready`. -/
def PodStatus.runningReady (pod : PodStatus) : Bool :=
  pod.phase == "Running" && pod.ready == some true

/-- The calls made so far in a run, each with the error it returned. -/
abbrev Trace := List (Call × Option String)

/-- The calls of a trace, without their answers. -/
def Trace.calls (tr : Trace) : List Call := tr.map (·.1)

@[simp] theorem Trace.calls_nil : Trace.calls [] = [] := rfl

@[simp] theorem Trace.calls_cons (e : Call × Option String) (tr : Trace) :
    Trace.calls (e :: tr) = e.1 :: Trace.calls tr := rfl

@[simp] theorem Trace.calls_append (tr tr' : Trace) :
    Trace.calls (tr ++ tr') = Trace.calls tr ++ Trace.calls tr' := List.map_append _ _ _

/-- The cluster and the repository, as the repair flow sees them. -/
structure Platform where
  /-- `Pods(ns).Get(name)`: the pod, or the client's error. -/
  getPod : String → Except String PodStatus
  /-- `PersistentVolumeClaims(ns).Get(name)`: `none` when the claim exists, or the client's
  error. -/
  getPVC : String → Option String
  /-- The error a call returns, given the calls made before it in the run. -/
  outcome : List Call → Call → Option String

/-- Make a call: record it with the platform's answer, and return the answer. -/
def Platform.call (p : Platform) (tr : Trace) (c : Call) : Trace × Option String :=
  let r := p.outcome (tr.map (·.1)) c
  (tr ++ [(c, r)], r)

theorem Platform.call_fst (p : Platform) (tr : Trace) (c : Call) :
    (p.call tr c).1 = tr ++ [(c, (p.call tr c).2)] := rfl

/-- The platform on which every pod is running and ready, every claim exists, and every call
succeeds. -/
def Platform.healthy : Platform :=
  ⟨fun _ => .ok ⟨"Running", some true⟩, fun _ => none, fun _ _ => none⟩

/-- `common.RepairResult`, without the post-repair re-triage and the duration. -/
structure RepairResult where
  healedInstances : List String := []
  skippedInstances : List String := []
  deriving DecidableEq, Repr

namespace Repair

/-! ## Phase 2.5: the escrow -/

/-- The escrow dump of `donor`: `BackupDump(ctx, "backup", donor, "<ns>/<cluster>/<dumpFile>",
start, nil)`. -/
def escrowCall (cfg : Config) (dumpFilename donor : String) (start : Time) : Call :=
  .backupDump "backup" donor (cfg.ns ++ "/" ++ cfg.clusterName ++ "/" ++ dumpFilename) start []

/-- The error when escrow is asked for without a repository. -/
def escrowConfigError : String :=
  "repair requires --backups-path and RESTIC_PASSWORD for escrow (or --no-escrow to skip)"

/-- Whether escrow is asked for without a repository to write to. -/
def missingRepository (cfg : Config) : Bool := cfg.backupsPath == "" || cfg.resticPassword == ""

/-- Take the escrow dump; its failure aborts the repair. -/
def escrow (p : Platform) (cfg : Config) (dumpFilename donor : String) (start : Time)
    (tr : Trace) : Trace × Option String :=
  match p.call tr (escrowCall cfg dumpFilename donor start) with
  | (tr, some e) => (tr, some ("pre-repair backup failed: " ++ e))
  | (tr, none) => (tr, none)

/-- An escrow that lets the repair go on has been made, and returned `nil`. -/
theorem escrow_ok {p : Platform} {cfg : Config} {dumpFilename donor : String} {start : Time}
    {tr tr' : Trace} (h : escrow p cfg dumpFilename donor start tr = (tr', none)) :
    tr' = tr ++ [(escrowCall cfg dumpFilename donor start, none)] := by
  unfold escrow at h
  split at h <;> rename_i tr'' r hc
  · cases h
  · cases h
    have := congrArg Prod.snd hc
    have h1 := congrArg Prod.fst hc
    simp only [Platform.call] at this h1
    rw [← h1, this]

/-- The escrow phase makes the escrow dump, and nothing else. -/
theorem escrow_fst (p : Platform) (cfg : Config) (dumpFilename donor : String) (start : Time)
    (tr : Trace) :
    (escrow p cfg dumpFilename donor start tr).1 =
      tr ++ [(escrowCall cfg dumpFilename donor start,
        (p.call tr (escrowCall cfg dumpFilename donor start)).2)] := by
  rw [← Platform.call_fst]
  unfold escrow
  split <;> simp_all

/-! ## Phase 2.6: the diverged captures -/

/-- The virtual path of a diverged capture:
`fmt.Sprintf("%s/%s/%d-%s", ns, ClusterName, a.Instance, DumpFilename)`. -/
def divergedPath (cfg : Config) (dumpFilename : String) (a : InstanceAssessment) : String :=
  cfg.ns ++ "/" ++ cfg.clusterName ++ "/" ++ toString a.instanceNum ++ "-" ++ dumpFilename

/-- The capture of one assessment, tagged `job=<start as 20060102T150405Z>` and stamped `start`. -/
def divergedCall (cfg : Config) (dumpFilename : String) (start : Time) (a : InstanceAssessment) :
    Call :=
  .backupDump "diverged" a.pod (divergedPath cfg dumpFilename a) start [("job", start.jobID)]

/-- The assessments the capture loop does not skip. -/
def runningReady (a : InstanceAssessment) : Bool := a.isRunning && a.isReady

/-- One iteration of the capture loop: skip an assessment that is not running and ready, else
capture it; a failed capture is logged and the loop goes on. -/
def divergedStep (p : Platform) (cfg : Config) (dumpFilename : String) (start : Time) (tr : Trace)
    (a : InstanceAssessment) : Trace :=
  if !a.isRunning || !a.isReady then tr
  else (p.call tr (divergedCall cfg dumpFilename start a)).1

/-- Phase 2.6: the capture loop over the assessments. -/
def divergedCaptures (p : Platform) (cfg : Config) (dumpFilename : String) (start : Time)
    (assessments : List InstanceAssessment) (tr : Trace) : Trace :=
  assessments.foldl (divergedStep p cfg dumpFilename start) tr

/-- Phase 2.6 makes exactly one capture of each running and ready assessment, in order, after
the calls already made. -/
theorem divergedCaptures_calls (p : Platform) (cfg : Config) (dumpFilename : String)
    (start : Time) (assessments : List InstanceAssessment) (tr : Trace) :
    ∃ ext, divergedCaptures p cfg dumpFilename start assessments tr = tr ++ ext ∧
      ext.calls = (assessments.filter runningReady).map (divergedCall cfg dumpFilename start) := by
  induction assessments generalizing tr with
  | nil => exact ⟨[], by simp [divergedCaptures]⟩
  | cons a as ih =>
    simp only [divergedCaptures, List.foldl_cons] at ih ⊢
    by_cases h : runningReady a = true
    · obtain ⟨ext, he, hc⟩ := ih (p.call tr (divergedCall cfg dumpFilename start a)).1
      have hstep : divergedStep p cfg dumpFilename start tr a =
          (p.call tr (divergedCall cfg dumpFilename start a)).1 := by
        simp_all [divergedStep, runningReady]
      refine ⟨(divergedCall cfg dumpFilename start a,
        (p.call tr (divergedCall cfg dumpFilename start a)).2) :: ext, ?_, by simp [hc, h]⟩
      rw [hstep, he, Platform.call_fst, List.append_assoc]
      rfl
    · have hstep : divergedStep p cfg dumpFilename start tr a = tr := by
        simp_all [divergedStep, runningReady]
      rw [hstep]
      obtain ⟨ext, he, hc⟩ := ih tr
      exact ⟨ext, he, by simp [hc, h]⟩

/-- A capture is a dump, not a heal. -/
theorem divergedCall_isHeal (cfg : Config) (dumpFilename : String) (start : Time)
    (a : InstanceAssessment) : (divergedCall cfg dumpFilename start a).isHeal = false := rfl

/-- Phase 2.6 behind its guard: it runs only when triage reports split-brain and escrow is on. -/
def divergedPhase (p : Platform) (cfg : Config) (dumpFilename : String) (start : Time)
    (result : TriageResult) (tr : Trace) : Trace :=
  if !result.dataComparison.safeToHeal && !cfg.noEscrow then
    divergedCaptures p cfg dumpFilename start result.assessments tr
  else tr

/-- Phase 2.6 adds a capture of every running and ready assessment when triage reports
split-brain and escrow is on, and nothing otherwise. -/
theorem divergedPhase_calls (p : Platform) (cfg : Config) (dumpFilename : String) (start : Time)
    (result : TriageResult) (tr : Trace) :
    ∃ ext, divergedPhase p cfg dumpFilename start result tr = tr ++ ext ∧
      ext.calls = if !result.dataComparison.safeToHeal && !cfg.noEscrow then
        (result.assessments.filter runningReady).map (divergedCall cfg dumpFilename start)
      else [] := by
  unfold divergedPhase
  split_ifs
  · exact divergedCaptures_calls p cfg dumpFilename start result.assessments tr
  · exact ⟨[], by simp, rfl⟩

/-- Phase 2.6 heals nothing. -/
theorem divergedPhase_isHeal (p : Platform) (cfg : Config) (dumpFilename : String)
    (start : Time) (result : TriageResult) (tr : Trace) :
    ∃ ext, divergedPhase p cfg dumpFilename start result tr = tr ++ ext ∧
      ∀ c ∈ ext.calls, c.isHeal = false := by
  obtain ⟨ext, he, hc⟩ := divergedPhase_calls p cfg dumpFilename start result tr
  refine ⟨ext, he, fun c h => ?_⟩
  rw [hc] at h
  split_ifs at h
  · obtain ⟨a, -, rfl⟩ := List.mem_map.1 h
    rfl
  · cases h

/-! ## Phase 3 -/

/-- The two gates of a targeted heal: without `--force`, a heal gets past them only on a safe
verdict, for an assessment marked `NeedsHeal`. -/
theorem targeted_gates {safe needsHeal force : Bool} (hs : ¬(!safe && !force) = true)
    (hn : ¬(!needsHeal && !force) = true) (hf : force = false) :
    needsHeal = true ∧ safe = true := by
  subst hf
  simp_all

/-- The loop of `repairUntargeted`: heal the targets in order, stopping at the first error, and
collect the pods healed. -/
def healEach (p : Platform) (heal : InstanceAssessment → Call) :
    List InstanceAssessment → Trace → List String → Trace × Except String (List String)
  | [], tr, healed => (tr, .ok healed)
  | t :: ts, tr, healed =>
    match p.call tr (heal t) with
    | (tr, some e) => (tr, .error ("heal failed for " ++ t.pod ++ ": " ++ e))
    | (tr, none) => healEach p heal ts tr (healed ++ [t.pod])

/-- The loop heals a prefix of its targets, after the calls already made. -/
theorem healEach_calls (p : Platform) (heal : InstanceAssessment → Call)
    (ts : List InstanceAssessment) (tr : Trace) (healed : List String) :
    ∃ ext k, (healEach p heal ts tr healed).1 = tr ++ ext ∧ ext.calls = (ts.take k).map heal := by
  induction ts generalizing tr healed with
  | nil => exact ⟨[], 0, by simp [healEach]⟩
  | cons t ts ih =>
    have hfst := Platform.call_fst p tr (heal t)
    rcases hc : p.call tr (heal t) with ⟨tr', _ | e⟩ <;> simp only [hc] at hfst <;> subst hfst
    · obtain ⟨ext, k, he, hk⟩ := ih (tr ++ [(heal t, none)]) (healed ++ [t.pod])
      exact ⟨(heal t, none) :: ext, k + 1, by simp [healEach, hc, he], by simp [hk]⟩
    · exact ⟨[(heal t, some e)], 1, by simp [healEach, hc], by simp⟩

/-- `repairUntargeted`, the same in both engines but for the text of its hard stop and the heal
call it makes. -/
def untargeted (p : Platform) (hardStop : String) (heal : InstanceAssessment → Call)
    (result : TriageResult) (tr : Trace) : Trace × Except String RepairResult :=
  if !result.dataComparison.safeToHeal then (tr, .error hardStop)
  else
    let targets := result.assessments.filter (·.needsHeal)
    let skipped := (result.assessments.filter (!·.needsHeal)).map (·.pod)
    if targets.isEmpty then (tr, .ok { skippedInstances := skipped })
    else
      match healEach p heal targets tr [] with
      | (tr, .error e) => (tr, .error e)
      | (tr, .ok healed) => (tr, .ok { healedInstances := healed, skippedInstances := skipped })

/-- Every call `repairUntargeted` makes heals an assessment marked `NeedsHeal`, and only under
`SafeToHeal`. -/
theorem untargeted_calls (p : Platform) (hardStop : String) (heal : InstanceAssessment → Call)
    (result : TriageResult) (tr : Trace) :
    ∃ ext, ∃ l : List InstanceAssessment, (untargeted p hardStop heal result tr).1 = tr ++ ext ∧
      ext.calls = l.map heal ∧
      ∀ a ∈ l, a ∈ result.assessments ∧ a.needsHeal = true ∧
        result.dataComparison.safeToHeal = true := by
  unfold untargeted
  dsimp only
  split_ifs with hs
  · exact ⟨[], [], by simp⟩
  · exact ⟨[], [], by simp⟩
  · obtain ⟨ext, k, he, hk⟩ :=
      healEach_calls p heal (result.assessments.filter (·.needsHeal)) tr []
    refine ⟨ext, (result.assessments.filter (·.needsHeal)).take k, ?_, hk, fun a ha => ?_⟩
    · rcases hh : healEach p heal (result.assessments.filter (·.needsHeal)) tr [] with
        ⟨tr', _ | _⟩ <;> simpa [hh] using he
    · have := List.mem_filter.1 (List.mem_of_mem_take ha)
      exact ⟨this.1, this.2, by simpa using hs⟩

end Repair

end Hasteward
