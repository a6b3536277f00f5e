import Hasteward.Cnpg.Repair
import Hasteward.Galera.Repair

/-!
# The two engines behind one interface

`engine.Engine` is the interface both engines implement; `engine.Get` picks one by name (`cnpg`
or `galera`).  Here an `Engine` is that choice together with the cluster state the engine reads,
and `Engine.repair` dispatches `Repair` to it.  The results stated for "both engines" are stated
over `Engine`.

* `repair_escrow_before_heal`: with escrow on, a run that heals began with a `type=backup`
  escrow dump stamped with the run's start, which returned `nil` — for CNPG always, for Galera
  when some node reports `Primary` (`Engine.hasEscrowDonor`).  A Galera run with no Primary node
  heals with no escrow at all (`Galera.repair_heals_without_escrow`).
* `repair_heals_gated`: for both engines, without `--force`, every pod a repair heals was
  assessed `NeedsHeal` by its triage, under `SafeToHeal`.
* `repair_captures_scenario6`: the diverged captures of spec scenario 6, for both engines.
-/

set_option autoImplicit false

namespace Hasteward

/-- An engine, with the state of the cluster it was validated against. -/
inductive Engine
  /-- The CNPG engine, on a `postgresql.cnpg.io` cluster and its collected evidence. -/
  | cnpg (cl : Cnpg.Cluster) (data : Cnpg.TriageData)
  /-- The Galera engine, on a `MariaDB` resource and its collected evidence. -/
  | galera (mdb : Galera.MariaDB) (data : Galera.TriageData)

namespace Engine

/-- `Name()`. -/
def name : Engine → String
  | .cnpg .. => "cnpg"
  | .galera .. => "galera"

/-- `Repair(ctx)`, started at `start`. -/
def repair (p : Platform) (cfg : Config) (start : Time) : Engine → Trace × Except String RepairResult
  | .cnpg cl data => Cnpg.repair p cfg start cl data
  | .galera mdb data => Galera.repair p cfg start mdb data

/-- `Triage(ctx)`: the engine's analysis of the evidence it collected. -/
def triage (cfg : Config) : Engine → TriageResult
  | .cnpg cl data => Cnpg.triageAnalyze cfg cl data
  | .galera mdb data => Galera.triageAnalyze cfg mdb data

/-- **Heals pass triage's gates.**  For both engines, without `--force`, every pod a repair
heals was assessed `NeedsHeal` by the triage the repair ran, and that triage reported
`SafeToHeal`. -/
theorem repair_heals_gated (p : Platform) (cfg : Config) (start : Time) (e : Engine)
    (hf : cfg.force = false) {c : Call} (hc : c ∈ (e.repair p cfg start).1.calls) {pod : String}
    (hpod : c.healedPod = some pod) :
    ∃ a ∈ (e.triage cfg).assessments, a.pod = pod ∧ a.needsHeal = true ∧
      (e.triage cfg).dataComparison.safeToHeal = true := by
  have hh := Call.isHeal_of_healedPod hpod
  have hforce : ¬cfg.force = true := by simp [hf]
  cases e with
  | cnpg cl data =>
    obtain ⟨a, ha, rfl, hg⟩ := Cnpg.repair_heal_calls p cfg start cl data hc hh
    cases hpod
    exact ⟨a, ha, rfl, hg.resolve_right fun h => hforce h.2⟩
  | galera mdb data =>
    obtain ⟨a, ha, k, rfl, hg⟩ := Galera.repair_heal_calls p cfg start mdb data hc hh
    cases hpod
    exact ⟨a, ha, rfl, hg.resolve_right hforce⟩

theorem repair_heals_gated_laggingCluster :
    Cnpg.escrowConfig.force = false ∧
      Call.healInstance "c-2" "c-2" ∈ ((Engine.cnpg Cnpg.laggingCluster Cnpg.laggingData).repair
        Platform.healthy Cnpg.escrowConfig ⟨1719835200⟩).1.calls ∧
      (Call.healInstance "c-2" "c-2").healedPod = some "c-2" ∧
      ∃ a ∈ ((Engine.cnpg Cnpg.laggingCluster Cnpg.laggingData).triage Cnpg.escrowConfig).assessments,
        a.pod = "c-2" ∧ a.needsHeal = true ∧
        ((Engine.cnpg Cnpg.laggingCluster Cnpg.laggingData).triage
          Cnpg.escrowConfig).dataComparison.safeToHeal = true :=
  have hc : Call.healInstance "c-2" "c-2" ∈ ((Engine.cnpg Cnpg.laggingCluster
      Cnpg.laggingData).repair Platform.healthy Cnpg.escrowConfig ⟨1719835200⟩).1.calls := by
    decide
  ⟨rfl, hc, rfl, repair_heals_gated Platform.healthy Cnpg.escrowConfig ⟨1719835200⟩
    (Engine.cnpg Cnpg.laggingCluster Cnpg.laggingData) rfl hc rfl⟩

/-- Whether the engine has a donor for the escrow dump: the CNPG primary always, a Galera
cluster only when some node reports `Primary`. -/
def hasEscrowDonor : Engine → Bool
  | .cnpg .. => true
  | .galera _ data => !(Galera.primaryMembers data).isEmpty

/-- **No heal without escrow, when there is a donor.**  With escrow on, a run that heals began
with a `type=backup` dump stamped with the run's start, and that dump returned `nil`. -/
theorem repair_escrow_before_heal (p : Platform) (cfg : Config) (start : Time) (e : Engine)
    (he : cfg.noEscrow = false) (hd : e.hasEscrowDonor = true) {c : Call}
    (hc : c ∈ (e.repair p cfg start).1.calls) (hh : c.isHeal = true) :
    ∃ donor stdinFilename rest, (e.repair p cfg start).1 =
      (.backupDump "backup" donor stdinFilename start [], none) :: rest := by
  cases e with
  | cnpg cl data =>
    obtain ⟨rest, h⟩ := Cnpg.repair_escrow_first p cfg start cl data he hc hh
    exact ⟨_, _, rest, h⟩
  | galera mdb data =>
    obtain ⟨donor, ms, hpm⟩ := List.exists_cons_of_ne_nil (by simpa [hasEscrowDonor] using hd)
    obtain ⟨rest, h⟩ := Galera.repair_escrow_first p cfg start mdb data he hpm hc hh
    exact ⟨_, _, rest, h⟩

theorem repair_escrow_before_heal_laggingCluster :
    Cnpg.escrowConfig.noEscrow = false ∧
      (Engine.cnpg Cnpg.laggingCluster Cnpg.laggingData).hasEscrowDonor = true ∧
      Call.healInstance "c-2" "c-2" ∈ ((Engine.cnpg Cnpg.laggingCluster Cnpg.laggingData).repair
        Platform.healthy Cnpg.escrowConfig ⟨1719835200⟩).1.calls ∧
      ∃ donor stdinFilename rest, ((Engine.cnpg Cnpg.laggingCluster Cnpg.laggingData).repair
        Platform.healthy Cnpg.escrowConfig ⟨1719835200⟩).1 =
          (.backupDump "backup" donor stdinFilename ⟨1719835200⟩ [], none) :: rest :=
  ⟨by decide, by decide, by decide,
    repair_escrow_before_heal Platform.healthy Cnpg.escrowConfig ⟨1719835200⟩
      (Engine.cnpg Cnpg.laggingCluster Cnpg.laggingData) (by decide) (by decide)
      (c := .healInstance "c-2" "c-2") (by decide) rfl⟩

/-! ## Spec scenario 6 -/

/-- Spec scenario 6 on CNPG: three running, ready instances, `c-1` on a later timeline than the
primary `c-0`. -/
def scenario6Cnpg : Engine :=
  .cnpg
    { currentPrimary := "c-0", instances := 3, readyInstances := 3,
      phase := "Cluster in healthy state" }
    { runningPods := ["c-0", "c-1", "c-2"], missingInstances := [], crashloopPods := [],
      controlData := [⟨"c-0", "exec", "1", "0/A0", "", by decide, by decide⟩,
        ⟨"c-1", "exec", "2", "0/50", "", by decide, by decide⟩,
        ⟨"c-2", "exec", "1", "0/99", "", by decide, by decide⟩],
      streamingReplicas := [], diskUsage := fun _ => 10, pvcStates := fun _ => "Bound" }

/-- Spec scenario 6 on Galera: three running, synced nodes, `g-2` on another cluster UUID. -/
def scenario6Galera : Engine :=
  .galera Galera.threeReplicas
    { runningPods := ["g-0", "g-1", "g-2"], missingNodes := [], crashloopPods := [],
      grastateData := [⟨"g-0", "exec", "u", "-1", "0"⟩, ⟨"g-1", "exec", "u", "-1", "0"⟩,
        ⟨"g-2", "exec", "v", "-1", "0"⟩],
      wsrepMap := [("g-0", Galera.syncedStatus "u" "Primary" 10),
        ("g-1", Galera.syncedStatus "u" "Primary" 10), ("g-2", Galera.syncedStatus "v" "Primary" 10)],
      diskUsage := fun _ => 10, crashReasons := fun _ => "",
      grastate_nodup := by decide, wsrep_nodup := by decide }

/-- The calls of a repair of scenario 6 at 2024-07-01T12:00:00Z: CNPG captures no instance at
all, and Galera captures all three nodes at the one path `db/g/0-mysqldump.sql`. -/
theorem repair_captures_scenario6 :
    (scenario6Cnpg.repair Platform.healthy Cnpg.escrowConfig ⟨1719835200⟩).1.calls =
        [.backupDump "backup" "c-0" "db/c/pgdumpall.sql" ⟨1719835200⟩ []] ∧
      (scenario6Galera.repair Platform.healthy Galera.escrowConfig ⟨1719835200⟩).1.calls =
        [.backupDump "backup" "g-0" "db/g/mysqldump.sql" ⟨1719835200⟩ [],
          .backupDump "diverged" "g-0" "db/g/0-mysqldump.sql" ⟨1719835200⟩
            [("job", "20240701T120000Z")],
          .backupDump "diverged" "g-1" "db/g/0-mysqldump.sql" ⟨1719835200⟩
            [("job", "20240701T120000Z")],
          .backupDump "diverged" "g-2" "db/g/0-mysqldump.sql" ⟨1719835200⟩
            [("job", "20240701T120000Z")]] := by
  decide

end Engine

end Hasteward
