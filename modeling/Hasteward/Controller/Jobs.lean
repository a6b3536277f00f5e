import Hasteward.Engine
import Hasteward.Controller.Scheduler

/-!
# What the scheduled jobs make of an engine

`runTriage` asks the engine for its triage, reads a verdict from the result (`triageStatus`), and
in `repair` mode goes on to `runAutoRepair` when the verdict is `unhealthy`; `runAutoRepair` asks
the engine for a repair.  This file follows a Galera cluster through that path when its wsrep
queries fail.  `triageCollect` then stores the zero `wsrepStatus` for every running node, and
`Hasteward.K8s.Exec` shows that the shell does not run the query as it is asked.

* `galeraTriage_wsrepFailed`: with every wsrep status the zero value, triage finds no node in the
  Primary component and counts no node ready.  A resource with replicas and at most one cluster
  UUID is therefore `unhealthy` at every scheduled triage.
* `wsrepFailed_autoRepair_aborts`: the auto-repair that verdict starts in `repair` mode aborts
  before making any call, for want of a running and ready donor.
-/

set_option autoImplicit false

namespace Hasteward
namespace Galera

section WsrepFailed

variable {data : TriageData}

/-- Every wsrep status triage holds is the zero value a failed query leaves. -/
def WsrepFailed (data : TriageData) : Prop := ∀ q ∈ data.wsrepMap, q.2 = {}

theorem primaryMembers_of_wsrepFailed (h : WsrepFailed data) : primaryMembers data = [] := by
  simp only [primaryMembers, List.map_eq_nil_iff, List.filter_eq_nil_iff]
  intro q hq
  simp only [h q hq]
  decide

theorem wsState_of_wsrepFailed (mdb : MariaDB) (h : WsrepFailed data) (bestPrimarySeqno : Int)
    (gs : Grastate) :
    (facts mdb data bestPrimarySeqno gs).wsState = 0 := by
  simp only [facts]
  split
  next ws hws =>
    have hz : ws = {} := h _ (mem_of_lookup_eq_some hws)
    rw [hz]
  next => rfl

/-- With every wsrep query failed and at most one cluster UUID, triage reports no split-brain,
counts no node in the Primary component, and finds no node ready. -/
theorem galeraTriage_wsrepFailed (cfg : Config) (mdb : MariaDB) (h : WsrepFailed data)
    (hu : (uuidSet data).length ≤ 1) :
    (triageAnalyze cfg mdb data).dataComparison.safeToHeal = true ∧
      (triageAnalyze cfg mdb data).dataComparison.splitBrainDetails = [] ∧
      (triageAnalyze cfg mdb data).readyCount = 0 ∧
      ∀ a ∈ (triageAnalyze cfg mdb data).assessments, a.isReady = false := by
  have hpm := primaryMembers_of_wsrepFailed h
  have hflags : uuidFlags data ++ statusFlags data ++ seqnoFlags mdb data = [] := by
    simp only [List.append_eq_nil, uuidFlags_eq_nil, hu, true_and, statusFlags_eq_nil,
      seqnoFlags_eq_nil, hpm, ne_eq, not_true_eq_false, false_implies, and_true]
    intro q hq
    simp [h q hq]
  refine ⟨by simp [triageAnalyze, crossInstanceComparison, hflags],
    by simp [triageAnalyze, crossInstanceComparison, hflags], by simp [triageAnalyze, hpm], ?_⟩
  simp only [triageAnalyze, buildAssessments, List.mem_map]
  rintro _ ⟨gs, -, rfl⟩
  simp [assess, wsState_of_wsrepFailed mdb h]

end WsrepFailed

end Galera

/-- **Blind triage, idle repair.**  When every wsrep query of a Galera cluster with replicas and
one cluster UUID fails, each scheduled triage reports `unhealthy`, and the auto-repair that
starts in `repair` mode aborts before any call: no node is ready to donate. -/
theorem wsrepFailed_autoRepair_aborts (p : Platform) (cfg : Config) (start : Time)
    (mdb : Galera.MariaDB) (data : Galera.TriageData) (h : Galera.WsrepFailed data)
    (hr : 0 < mdb.replicas) (hu : (Galera.uuidSet data).length ≤ 1) :
    Controller.triageStatus (Galera.triageAnalyze cfg mdb data) = "unhealthy" ∧
      Galera.repair p cfg start mdb data =
        ([], .error ("ABORT: No healthy donor nodes found. All nodes are down or unhealthy. " ++
          "Cannot heal without a running donor to provide SST")) := by
  obtain ⟨hsafe, -, hready, hall⟩ := Galera.galeraTriage_wsrepFailed cfg mdb h hu
  have hnone : (Galera.triageAnalyze cfg mdb data).assessments.any
      (fun a => a.isRunning && a.isReady) = false := by
    simp only [List.any_eq_false, Bool.and_eq_true, not_and]
    exact fun a ha _ => by simp [hall a ha]
  refine ⟨?_, by simp [Galera.repair, hnone]⟩
  have htotal : (Galera.triageAnalyze cfg mdb data).totalCount = mdb.replicas := rfl
  simp [Controller.triageStatus, hsafe, hready, htotal, hr]

/-- Three running nodes of one cluster, whose wsrep queries all failed. -/
def failedQueries : Galera.TriageData :=
  { runningPods := ["g-0", "g-1", "g-2"], missingNodes := [], crashloopPods := [],
    grastateData := [⟨"g-0", "exec", "u", "-1", "0"⟩, ⟨"g-1", "exec", "u", "-1", "0"⟩,
      ⟨"g-2", "exec", "u", "-1", "0"⟩],
    wsrepMap := [("g-0", {}), ("g-1", {}), ("g-2", {})],
    diskUsage := fun _ => 10, crashReasons := fun _ => "",
    grastate_nodup := by decide, wsrep_nodup := by decide }

theorem wsrepFailed_autoRepair_aborts_failedQueries :
    Galera.WsrepFailed failedQueries ∧ 0 < Galera.threeReplicas.replicas ∧
      (Galera.uuidSet failedQueries).length ≤ 1 ∧
      (Controller.triageStatus (Galera.triageAnalyze Galera.escrowConfig Galera.threeReplicas
          failedQueries) = "unhealthy" ∧
        Galera.repair Platform.healthy Galera.escrowConfig ⟨1719835200⟩ Galera.threeReplicas
          failedQueries =
          ([], .error ("ABORT: No healthy donor nodes found. All nodes are down or unhealthy. " ++
            "Cannot heal without a running donor to provide SST"))) :=
  have h : Galera.WsrepFailed failedQueries := by
    unfold Galera.WsrepFailed
    decide
  ⟨h, by decide, by decide, wsrepFailed_autoRepair_aborts Platform.healthy Galera.escrowConfig
    ⟨1719835200⟩ Galera.threeReplicas failedQueries h (by decide) (by decide)⟩

end Hasteward
