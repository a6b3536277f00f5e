import Hasteward.Galera.Repair
import Hasteward.Galera.Heal

/-!
# How far a Galera heal scales the StatefulSet down

`healNode(ctx, targetPod, instanceNum)` scales the cluster's StatefulSet down to
`scaleTarget replicas instanceNum`: to `instanceNum` when that is the last ordinal, so that only
the target's pod goes, and to `0` otherwise.  Which `instanceNum` it gets depends on the mode of
the repair: targeted mode passes `--instance`, with the pod named from it, and untargeted mode
passes the assessment's `Instance`, which Galera triage never sets.

* `healPhase_heals`: the heals of phase 3 are of `<cluster>-<N>` with `N`, targeted
  (`repairTargeted_calls`), and of some pod with `0`, untargeted.
* `repair_heal_scaleDown`: for every triage input and every heal of a run, `healNode` goes on
  from the suspend to the scale-down to `scaleTarget replicas k` for that heal's `k`.  Untargeted,
  `k` is `0` and so is the scale-down, whichever node is healed:
  `repair_heal_scaleDown_lastNode` heals `g-2`, the last node of three, with the StatefulSet
  scaled to `0`, so `g-0` and `g-1` go down too.
-/

set_option autoImplicit false

namespace Hasteward
namespace Galera

open K8s

/-! ## The heal calls of phase 3 -/

/-- The heals of phase 3: of `<cluster>-<N>` with `N` given `--instance N`, and with the
assessment's `Instance` otherwise, which is `0` when triage left it unset. -/
theorem healPhase_heals (p : Platform) (cfg : Config) (result : TriageResult) (tr : Trace)
    (h0 : ∀ a ∈ result.assessments, a.instanceNum = 0) :
    ∃ ext, (healPhase p cfg result tr).1 = tr ++ ext ∧
      ∀ c ∈ ext.calls,
        (∃ N, cfg.instanceNumber = some N ∧ c = .healNode (cfg.clusterName ++ "-" ++ toString N) N) ∨
          (cfg.instanceNumber = none ∧ ∃ pod, c = .healNode pod 0) := by
  unfold healPhase
  split
  next N hN =>
    obtain ⟨ext, he, hc⟩ := repairTargeted_calls p cfg N result tr
    refine ⟨ext, he, fun c h => .inl ⟨N, hN, ?_⟩⟩
    obtain ⟨a, -, rfl, -, hpod⟩ := hc c h
    rw [hpod]
  next hN =>
    obtain ⟨ext, l, he, hc, hl⟩ := Repair.untargeted_calls p _ _ result tr
    refine ⟨ext, he, fun c h => .inr ⟨hN, ?_⟩⟩
    rw [hc] at h
    obtain ⟨a, ha, rfl⟩ := List.mem_map.1 h
    exact ⟨a.pod, by rw [h0 a (hl a ha).1]⟩

/-! ## The scale-down -/

/-- **The scale-down of every heal.**  For every triage input, every heal of a run is
`healNode(<cluster>-<N>, N)` under `--instance N`, and `healNode(pod, 0)` without; and whatever
the API server answers, once the suspend is accepted `healNode` goes on with the scale-down to
`scaleTarget replicas k` for that heal's `k`.  Untargeted, that is `0` for every node. -/
theorem repair_heal_scaleDown (p : Platform) (cfg : Config) (start : Time) (mdb : MariaDB)
    (data : TriageData) {c : Call} (hc : c ∈ (repair p cfg start mdb data).1.calls)
    (hh : c.isHeal = true) :
    ∃ pod k, c = .healNode pod k ∧
      ((∃ N, cfg.instanceNumber = some N ∧ pod = cfg.clusterName ++ "-" ++ toString N ∧ k = N) ∨
        (cfg.instanceNumber = none ∧ k = 0 ∧ scaleTarget mdb.replicas k = 0)) ∧
      ∀ (api : Api) (storageNow galeraNow : Int),
        (suspendCR api (Run.call api.err [] (.getPVC ("galera-" ++ pod))).1).2 = none →
        (scaleStatefulSet api (scaleTarget mdb.replicas k)
            (suspendCR api (Run.call api.err [] (.getPVC ("galera-" ++ pod))).1).1).1 <+:
          (healNode api cfg mdb pod k storageNow galeraNow).1 := by
  obtain ⟨tr, ext, he, hc⟩ := repair_heal_of_healPhase hc hh
  obtain ⟨extH, heH, hH⟩ := healPhase_heals p cfg (triageAnalyze cfg mdb data) tr
    (triage_instanceNum cfg mdb data)
  rcases hH c (List.append_cancel_left (he.symm.trans heH) ▸ hc) with ⟨N, hN, rfl⟩ | ⟨hN, pod, rfl⟩
  · exact ⟨_, N, rfl, .inl ⟨N, hN, rfl, rfl⟩, fun api _ _ hS => healNode_scaleDown api _ _ _ _ _ _ hS⟩
  · refine ⟨pod, 0, rfl, .inr ⟨hN, rfl, ?_⟩, fun api _ _ hS => healNode_scaleDown api _ _ _ _ _ _ hS⟩
    unfold scaleTarget
    split <;> rfl

/-- Three nodes: `g-0` and `g-1` form the Primary component at seqno 100; `g-2` has no pod, and
the `grastate.dat` probed from its volume records seqno 50. -/
def lastBehindData : TriageData :=
  { runningPods := ["g-0", "g-1"], missingNodes := ["g-2"], crashloopPods := [],
    grastateData := [⟨"g-0", "exec", "u", "-1", "0"⟩, ⟨"g-1", "exec", "u", "-1", "0"⟩,
      ⟨"g-2", "pvc_probe", "u", "50", "0"⟩],
    wsrepMap := [("g-0", syncedStatus "u" "Primary" 100), ("g-1", syncedStatus "u" "Primary" 100)],
    diskUsage := fun _ => 10, crashReasons := fun _ => "",
    grastate_nodup := by decide, wsrep_nodup := by decide }

/-- The untargeted repair heals `g-2`, the last of three nodes, with ordinal `0`, and `healNode`
scales the StatefulSet to `0`, not to `2`. -/
theorem repair_heal_scaleDown_lastNode :
    Call.healNode "g-2" 0 ∈
        (repair Platform.healthy escrowConfig ⟨1719835200⟩ threeReplicas lastBehindData).1.calls ∧
      threeReplicas.replicas - 1 = 2 ∧ scaleTarget threeReplicas.replicas 0 = 0 ∧
      (ApiCall.updateScale 0, none) ∈ (healNode acceptingApi escrowConfig threeReplicas "g-2" 0 0 0).1 := by
  have hc : Call.healNode "g-2" 0 ∈
      (repair Platform.healthy escrowConfig ⟨1719835200⟩ threeReplicas lastBehindData).1.calls := by
    decide
  obtain ⟨pod, k, hpk, -, hD⟩ := repair_heal_scaleDown Platform.healthy escrowConfig ⟨1719835200⟩
    threeReplicas lastBehindData hc rfl
  obtain ⟨rfl, rfl⟩ := Call.healNode.inj hpk
  exact ⟨hc, rfl, by decide, (hD acceptingApi 0 0 rfl).subset (by decide)⟩

end Galera
end Hasteward
