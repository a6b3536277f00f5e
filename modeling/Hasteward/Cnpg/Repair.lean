import Hasteward.Cnpg.SplitBrain
import Hasteward.Repair.Basic

/-!
# CNPG repair

`Repair` of `engine/cnpg/repair.go`, over the calls model of `Hasteward.Repair.Basic`: triage;
a current primary that exists and is running and ready; the escrow dump of the primary
(phase 2.5); the diverged captures when triage reports split-brain (phase 2.6); and the targeted
or untargeted heal (phase 3).  The heal-config discovery of phase 2 (the primary's IP, the
`postgres` UID and GID, the image) only feeds `healInstance`, which is a call here, and is left
out.

* `healPhase_calls`: every heal of phase 3 is of an assessment that triage marked `NeedsHeal`
  under `SafeToHeal`, or of a target forced with `--force` that is not the primary.
* `repair_heal_calls`: the same for every heal a whole run makes; the escrow and the captures
  heal nothing.
* `repair_heals_only_behind`: together with `behind_of_needsHeal`, a heal without `--force` is
  of a replica whose `(timeline, LSN)` is strictly behind the primary's, under `SafeToHeal`; and
  the primary is never healed, with or without `--force`.
* `repair_escrow_first`: with escrow on, a run that heals began with an escrow dump of the
  primary, stamped with the run's start, that returned `nil`.
* `triage_no_running`: no assessment is ever running, so phase 2.6 captures nothing.
-/

set_option autoImplicit false

namespace Hasteward
namespace Cnpg

/-- `DumpFilename`: the virtual file of a `pg_dumpall` in a snapshot. -/
def dumpFilename : String := "pgdumpall.sql"

/-! ## The flow -/

/-- `repairTargeted`: heal `<cluster>-<n>`, never the primary; on split-brain or a healthy target
only with `--force`. -/
def repairTargeted (p : Platform) (cfg : Config) (n : Int) (primary : String)
    (result : TriageResult) (tr : Trace) : Trace × Except String RepairResult :=
  let targetPod := cfg.clusterName ++ "-" ++ toString n
  if targetPod == primary then
    (tr, .error ("ABORT: " ++ targetPod ++ " is the PRIMARY. Cannot heal primary. Use switchover first"))
  else
    match result.assessments.find? (·.pod == targetPod) with
    | none => (tr, .error ("ABORT: " ++ targetPod ++
        " not found in instance assessments. Check cluster_name and instance_number"))
    | some a =>
      if !result.dataComparison.safeToHeal && !cfg.force then
        (tr, .error ("ABORT: Split-brain detected. Healing " ++ targetPod ++
          " may cause DATA LOSS. Re-run with --force to override"))
      else if !a.needsHeal && !cfg.force then (tr, .ok { skippedInstances := [targetPod] })
      else
        match p.getPVC targetPod with
        | some e => (tr, .error ("PVC " ++ targetPod ++ " not found: " ++ e))
        | none =>
          match p.call tr (.healInstance targetPod targetPod) with
          | (tr, some e) => (tr, .error e)
          | (tr, none) => (tr, .ok { healedInstances := [targetPod] })

/-- `repairUntargeted`: heal every replica marked `NeedsHeal`; no override of split-brain. -/
def repairUntargeted (p : Platform) (result : TriageResult) (tr : Trace) :
    Trace × Except String RepairResult :=
  Repair.untargeted p
    ("HARD STOP: Split-brain detected. Cannot auto-heal all replicas. " ++
      "Admin must review triage output, then use targeted repair: --instance <N>")
    (fun t => .healInstance t.pod t.pod) result tr

/-- Phase 2.5: the escrow dump of the primary, unless `--no-escrow`. -/
def escrowPhase (p : Platform) (cfg : Config) (start : Time) (primary : String) :
    Trace × Option String :=
  if !cfg.noEscrow then
    if Repair.missingRepository cfg then ([], some Repair.escrowConfigError)
    else Repair.escrow p cfg dumpFilename primary start []
  else ([], none)

/-- Phase 3: targeted with `--instance`, untargeted without. -/
def healPhase (p : Platform) (cfg : Config) (primary : String) (result : TriageResult)
    (tr : Trace) : Trace × Except String RepairResult :=
  match cfg.instanceNumber with
  | some n => repairTargeted p cfg n primary result tr
  | none => repairUntargeted p result tr

/-- `Repair`, started at `start`, on the cluster `cl` whose collected evidence is `data`. -/
def repair (p : Platform) (cfg : Config) (start : Time) (cl : Cluster) (data : TriageData) :
    Trace × Except String RepairResult :=
  let result := triageAnalyze cfg cl data
  let primary := cl.currentPrimary
  if primary == "" then
    ([], .error "ABORT: No primary detected. Cannot heal replicas without a healthy primary")
  else
    match p.getPod primary with
    | .error e => ([], .error ("ABORT: Primary pod " ++ primary ++ " not found: " ++ e))
    | .ok pod =>
      if !pod.runningReady then
        ([], .error ("ABORT: Primary " ++ primary ++ " is not running and ready. Fix primary first"))
      else
        match escrowPhase p cfg start primary with
        | (tr, some e) => (tr, .error e)
        | (tr, none) =>
          healPhase p cfg primary result (Repair.divergedPhase p cfg dumpFilename start result tr)

/-! ## Which calls a run makes -/

/-- The escrow phase makes the escrow dump or nothing; when it lets the run go on with escrow
on, the dump was made and returned `nil`. -/
theorem escrowPhase_calls (p : Platform) (cfg : Config) (start : Time) (primary : String) :
    (∀ c ∈ (escrowPhase p cfg start primary).1.calls,
      c = Repair.escrowCall cfg dumpFilename primary start) ∧
    ∀ tr, escrowPhase p cfg start primary = (tr, none) → cfg.noEscrow = false →
      tr = [(Repair.escrowCall cfg dumpFilename primary start, none)] := by
  unfold escrowPhase
  split_ifs with he hm
  · simp
  · constructor
    · simp [Repair.escrow_fst]
    · intro tr h _
      simpa using Repair.escrow_ok h
  · exact ⟨by simp, fun _ _ h => by simp_all⟩

/-- The targeted heal heals the assessment of its target, which is not the primary, and without
`--force` only under `SafeToHeal` and `NeedsHeal`. -/
theorem repairTargeted_calls (p : Platform) (cfg : Config) (n : Int) (primary : String)
    (result : TriageResult) (tr : Trace) :
    ∃ ext, ∃ l : List InstanceAssessment, (repairTargeted p cfg n primary result tr).1 = tr ++ ext ∧
      ext.calls = l.map (fun a => .healInstance a.pod a.pod) ∧
      ∀ a ∈ l, a ∈ result.assessments ∧ a.pod ≠ primary ∧
        (cfg.force = false → a.needsHeal = true ∧ result.dataComparison.safeToHeal = true) := by
  unfold repairTargeted
  dsimp only
  split
  next => exact ⟨[], [], by simp⟩
  next hp =>
  split
  next => exact ⟨[], [], by simp⟩
  next a ha =>
  have hpod := List.find?_some ha
  simp only [beq_iff_eq] at hpod hp
  split
  next => exact ⟨[], [], by simp⟩
  next hs =>
  split
  next => exact ⟨[], [], by simp⟩
  next hn =>
  split
  next => exact ⟨[], [], by simp⟩
  rw [← hpod]
  refine ⟨[(.healInstance a.pod a.pod, (p.call tr (.healInstance a.pod a.pod)).2)], [a], ?_,
    by simp, ?_⟩
  · rw [← Platform.call_fst]
    split <;> simp_all
  · simp only [List.mem_singleton, forall_eq]
    exact ⟨List.mem_of_find?_eq_some ha, hpod ▸ hp, Repair.targeted_gates hs hn⟩

/-- **The heal gate of phase 3.**  Every heal is of an assessment that triage marked `NeedsHeal`
under `SafeToHeal`, or of a target forced with `--force` that is not the primary. -/
theorem healPhase_calls (p : Platform) (cfg : Config) (primary : String) (result : TriageResult)
    (tr : Trace) :
    ∃ ext, ∃ l : List InstanceAssessment, (healPhase p cfg primary result tr).1 = tr ++ ext ∧
      ext.calls = l.map (fun a => .healInstance a.pod a.pod) ∧
      ∀ a ∈ l, a ∈ result.assessments ∧
        (a.needsHeal = true ∧ result.dataComparison.safeToHeal = true ∨
          a.pod ≠ primary ∧ cfg.force = true) := by
  unfold healPhase
  split
  · obtain ⟨ext, l, he, hc, hl⟩ := repairTargeted_calls p cfg _ primary result tr
    refine ⟨ext, l, he, hc, fun a ha => ⟨(hl a ha).1, ?_⟩⟩
    cases hf : cfg.force
    · exact .inl ((hl a ha).2.2 hf)
    · exact .inr ⟨(hl a ha).2.1, rfl⟩
  · obtain ⟨ext, l, he, hc, hl⟩ := Repair.untargeted_calls p _ _ result tr
    exact ⟨ext, l, he, hc, fun a ha => ⟨(hl a ha).1, .inl (hl a ha).2⟩⟩

/-- A run that heals got past the primary checks and the escrow: its calls are those of the
escrow, then of phase 2.6, then of phase 3. -/
theorem repair_of_heal {p : Platform} {cfg : Config} {start : Time} {cl : Cluster}
    {data : TriageData} {c : Call} (hc : c ∈ (repair p cfg start cl data).1.calls)
    (hh : c.isHeal = true) :
    ∃ tr, escrowPhase p cfg start cl.currentPrimary = (tr, none) ∧
      (repair p cfg start cl data).1 = (healPhase p cfg cl.currentPrimary (triageAnalyze cfg cl data)
        (Repair.divergedPhase p cfg dumpFilename start (triageAnalyze cfg cl data) tr)).1 := by
  unfold repair at hc ⊢
  dsimp only at hc ⊢
  by_cases h0 : (cl.currentPrimary == "") = true
  · simp [h0] at hc
  rw [if_neg h0] at hc ⊢
  rcases hg : p.getPod cl.currentPrimary with e | pod
  · simp [hg] at hc
  simp only [hg] at hc ⊢
  by_cases hr : (!pod.runningReady) = true
  · simp [hr] at hc
  rw [if_neg hr] at hc ⊢
  rcases hes : escrowPhase p cfg start cl.currentPrimary with ⟨tr, _ | e⟩
  · exact ⟨tr, rfl, rfl⟩
  · simp only [hes] at hc
    have := (escrowPhase_calls p cfg start cl.currentPrimary).1 c (by rw [hes]; exact hc)
    subst this
    cases hh

/-- **Every heal of a CNPG run.**  Every heal a run makes is of a member of triage's assessments,
marked `NeedsHeal` under `SafeToHeal`, or forced with `--force` and not the primary. -/
theorem repair_heal_calls (p : Platform) (cfg : Config) (start : Time) (cl : Cluster)
    (data : TriageData) {c : Call} (hc : c ∈ (repair p cfg start cl data).1.calls)
    (hh : c.isHeal = true) :
    ∃ a ∈ (triageAnalyze cfg cl data).assessments, c = .healInstance a.pod a.pod ∧
      (a.needsHeal = true ∧ (triageAnalyze cfg cl data).dataComparison.safeToHeal = true ∨
        a.pod ≠ cl.currentPrimary ∧ cfg.force = true) := by
  obtain ⟨tr, htr, hrun⟩ := repair_of_heal hc hh
  obtain ⟨extD, heD, hD⟩ := Repair.divergedPhase_isHeal p cfg dumpFilename start
    (triageAnalyze cfg cl data) tr
  obtain ⟨extH, l, heH, hcH, hl⟩ := healPhase_calls p cfg cl.currentPrimary
    (triageAnalyze cfg cl data) (Repair.divergedPhase p cfg dumpFilename start
      (triageAnalyze cfg cl data) tr)
  rw [hrun, heH, heD] at hc
  simp only [Trace.calls_append, List.mem_append] at hc
  rcases hc with (hc | hc) | hc
  · have := (escrowPhase_calls p cfg start cl.currentPrimary).1 c (by rw [htr]; exact hc)
    subst this
    cases hh
  · exact absurd hh (by simp [hD c hc])
  · rw [hcH] at hc
    obtain ⟨a, ha, rfl⟩ := List.mem_map.1 hc
    exact ⟨a, (hl a ha).1, rfl, (hl a ha).2⟩

/-! ## What triage's verdicts make of the gate -/

theorem mem_assessments {cfg : Config} {cl : Cluster} {data : TriageData}
    {a : InstanceAssessment} (ha : a ∈ (triageAnalyze cfg cl data).assessments) :
    ∃ inst ∈ data.controlData, assess cfg data (crossInstanceComparison data cl.currentPrimary)
      cl.currentPrimary inst = a :=
  List.mem_map.1 ha

/-- **No data that is not behind is destroyed.**  A heal of a CNPG run is never of the primary;
without `--force` it is of a pod whose record has a known timeline and a `(timeline, LSN)` pair
strictly below the primary's, under `SafeToHeal`. -/
theorem repair_heals_only_behind (p : Platform) (cfg : Config) (start : Time) (cl : Cluster)
    (data : TriageData) {pod pvc : String}
    (h : Call.healInstance pod pvc ∈ (repair p cfg start cl data).1.calls) :
    pod ≠ cl.currentPrimary ∧
      (cfg.force = false →
        (triageAnalyze cfg cl data).dataComparison.safeToHeal = true ∧
        ∃ inst ∈ data.controlData, inst.pod = pod ∧ inst.timeline ≠ "unknown" ∧
          Behind inst (data.primary cl.currentPrimary).1) := by
  obtain ⟨a, ha, hc, hg⟩ := repair_heal_calls p cfg start cl data h rfl
  obtain ⟨inst, hinst, rfl⟩ := mem_assessments ha
  cases hc
  rcases hg with ⟨hn, -⟩ | ⟨hp, hf⟩
  · obtain ⟨hp, hs, htl, hb⟩ := behind_of_needsHeal hn
    exact ⟨hp, fun _ => ⟨hs, inst, hinst, rfl, htl, hb⟩⟩
  · exact ⟨hp, fun h => absurd (h.symm.trans hf) (by decide)⟩

/-- A two-instance cluster whose replica `c-2` is a timeline behind the primary `c-1`. -/
def laggingCluster : Cluster :=
  { currentPrimary := "c-1", instances := 2, readyInstances := 2,
    phase := "Cluster in healthy state" }

/-- The evidence triage collects from `laggingCluster`. -/
def laggingData : TriageData :=
  { runningPods := ["c-1", "c-2"], missingInstances := [], crashloopPods := [],
    controlData := [⟨"c-1", "exec", "2", "0/A0", "", by decide, by decide⟩,
      ⟨"c-2", "exec", "1", "0/50", "", by decide, by decide⟩],
    streamingReplicas := [], diskUsage := fun _ => 10, pvcStates := fun _ => "Bound" }

/-- The repair configuration of the runs below: untargeted, escrow into `/backups`. -/
def escrowConfig : Config :=
  { clusterName := "c", ns := "db", backupsPath := "/backups", resticPassword := "secret" }

theorem repair_heals_laggingCluster :
    Call.healInstance "c-2" "c-2" ∈
        (repair Platform.healthy escrowConfig ⟨1719835200⟩ laggingCluster laggingData).1.calls ∧
      "c-2" ≠ laggingCluster.currentPrimary ∧
      (escrowConfig.force = false →
        (triageAnalyze escrowConfig laggingCluster laggingData).dataComparison.safeToHeal = true ∧
        ∃ inst ∈ laggingData.controlData, inst.pod = "c-2" ∧ inst.timeline ≠ "unknown" ∧
          Behind inst (laggingData.primary laggingCluster.currentPrimary).1) :=
  have h : Call.healInstance "c-2" "c-2" ∈
      (repair Platform.healthy escrowConfig ⟨1719835200⟩ laggingCluster laggingData).1.calls := by
    decide
  ⟨h, repair_heals_only_behind Platform.healthy escrowConfig ⟨1719835200⟩ laggingCluster
    laggingData h⟩

/-- **Escrow comes first.**  With escrow on, a run that heals began with the escrow dump of the
primary, stamped with the run's start, and that dump returned `nil`. -/
theorem repair_escrow_first (p : Platform) (cfg : Config) (start : Time) (cl : Cluster)
    (data : TriageData) (he : cfg.noEscrow = false) {c : Call}
    (hc : c ∈ (repair p cfg start cl data).1.calls) (hh : c.isHeal = true) :
    ∃ rest, (repair p cfg start cl data).1 =
      (Repair.escrowCall cfg dumpFilename cl.currentPrimary start, none) :: rest := by
  obtain ⟨tr, htr, hrun⟩ := repair_of_heal hc hh
  have := (escrowPhase_calls p cfg start cl.currentPrimary).2 tr htr he
  subst this
  obtain ⟨extD, heD, -⟩ := Repair.divergedPhase_isHeal p cfg dumpFilename start
    (triageAnalyze cfg cl data) [(Repair.escrowCall cfg dumpFilename cl.currentPrimary start, none)]
  obtain ⟨extH, l, heH, -⟩ := healPhase_calls p cfg cl.currentPrimary (triageAnalyze cfg cl data)
    (Repair.divergedPhase p cfg dumpFilename start (triageAnalyze cfg cl data)
      [(Repair.escrowCall cfg dumpFilename cl.currentPrimary start, none)])
  exact ⟨extD ++ extH, by rw [hrun, heH, heD]; simp⟩

/-! ## The diverged captures -/

/-- `buildAssessments` never sets `IsRunning`: every CNPG assessment reads as not running. -/
theorem triage_no_running (cfg : Config) (cl : Cluster) (data : TriageData) :
    ∀ a ∈ (triageAnalyze cfg cl data).assessments, a.isRunning = false := by
  intro a ha
  obtain ⟨inst, -, rfl⟩ := mem_assessments ha
  rfl

/-- So phase 2.6 of a CNPG run captures nothing, whatever triage found. -/
theorem divergedPhase_eq (p : Platform) (cfg : Config) (start : Time) (cl : Cluster)
    (data : TriageData) (tr : Trace) :
    Repair.divergedPhase p cfg dumpFilename start (triageAnalyze cfg cl data) tr = tr := by
  obtain ⟨ext, he, hc⟩ := Repair.divergedPhase_calls p cfg dumpFilename start
    (triageAnalyze cfg cl data) tr
  have hnil : (triageAnalyze cfg cl data).assessments.filter Repair.runningReady = [] :=
    List.filter_eq_nil_iff.2 fun a ha => by
      simp [Repair.runningReady, triage_no_running cfg cl data a ha]
  rw [hnil] at hc
  have : ext = [] := by
    apply List.map_eq_nil_iff.1
    split_ifs at hc <;> exact hc
  rw [he, this, List.append_nil]

/-- **The dumps of a CNPG run.**  Every call of a run that is not a heal is the escrow dump of
the primary: phase 2.6 never captures. -/
theorem repair_dumps (p : Platform) (cfg : Config) (start : Time) (cl : Cluster) (data : TriageData)
    {c : Call} (hc : c ∈ (repair p cfg start cl data).1.calls) (hh : c.isHeal = false) :
    c = Repair.escrowCall cfg dumpFilename cl.currentPrimary start := by
  have hesc := (escrowPhase_calls p cfg start cl.currentPrimary).1 c
  unfold repair at hc
  dsimp only at hc
  split_ifs at hc
  · cases hc
  split at hc
  · cases hc
  split_ifs at hc
  · cases hc
  split at hc
  · next tr e hes => exact hesc (by rw [hes]; exact hc)
  · next tr hes =>
    rw [divergedPhase_eq] at hc
    obtain ⟨ext, l, he, hcH, -⟩ := healPhase_calls p cfg cl.currentPrimary (triageAnalyze cfg cl data) tr
    rw [he, Trace.calls_append, List.mem_append, hcH] at hc
    rcases hc with hc | hc
    · exact hesc (by rw [hes]; exact hc)
    · obtain ⟨a, -, rfl⟩ := List.mem_map.1 hc
      cases hh

end Cnpg
end Hasteward
