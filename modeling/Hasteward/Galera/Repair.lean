import Hasteward.Galera.SplitBrain
import Hasteward.Repair.Basic

/-!
# Galera repair

`Repair` of the Galera engine, over the calls model of `Hasteward.Repair.Basic`: triage; some
node running and ready to act as donor; the escrow dump of the first member of the Primary
component (phase 2.5); the diverged captures when triage reports split-brain (phase 2.6); and
the targeted or untargeted heal (phase 3).

It differs from the CNPG flow in three places, each visible below.  The escrow is *skipped*, with
a warning, when no node reports `Primary`.  The targeted heal has no primary to refuse, only a
warning for an active member of the Primary component.  And the heal call carries the node's
ordinal: `--instance` in targeted mode, the assessment's `Instance` in untargeted mode.

* `healPhase_calls` and `repair_heal_calls`: every heal a run makes is of an assessment marked
  `NeedsHeal` under `SafeToHeal`, or forced with `--force`.
* `repair_spares_freshest`: without `--force`, and with a non-empty Primary component, no node
  whose effective seqno is positive and above every Primary node's is healed.  With an empty
  component triage skips the seqno check, and such a node can be healed
  (`repair_heals_freshest_without_primary`).
* `repair_escrow_first`: with escrow on and a non-empty Primary component, a run that heals began
  with the escrow dump of the component's first member, which returned `nil`.  With an empty
  component a run can heal with no escrow at all (`repair_heals_without_escrow`).
-/

set_option autoImplicit false

namespace Hasteward
namespace Galera

/-- `DumpFilename`: the virtual file of a `mysqldump` in a snapshot. -/
def dumpFilename : String := "mysqldump.sql"

/-! ## The flow -/

/-- `repairTargeted`: heal `<cluster>-<n>`, on split-brain or a healthy target only with
`--force`.  The warning for an active member of the Primary component is a log line. -/
def repairTargeted (p : Platform) (cfg : Config) (n : Int) (result : TriageResult) (tr : Trace) :
    Trace × Except String RepairResult :=
  let targetPod := cfg.clusterName ++ "-" ++ toString n
  match result.assessments.find? (·.pod == targetPod) with
  | none => (tr, .error ("ABORT: " ++ targetPod ++
      " not found in instance assessments. Check cluster_name and instance_number"))
  | some a =>
    if !result.dataComparison.safeToHeal && !cfg.force then
      (tr, .error ("ABORT: Split-brain detected. Healing " ++ targetPod ++
        " may cause DATA LOSS. Re-run with --force to override"))
    else if !a.needsHeal && !cfg.force then (tr, .ok { skippedInstances := [targetPod] })
    else
      let storagePVC := "storage-" ++ targetPod
      match p.getPVC storagePVC with
      | some e => (tr, .error ("storage PVC " ++ storagePVC ++ " not found: " ++ e))
      | none =>
        match p.call tr (.healNode targetPod n) with
        | (tr, some e) => (tr, .error e)
        | (tr, none) => (tr, .ok { healedInstances := [targetPod] })

/-- `repairUntargeted`: heal every node marked `NeedsHeal`, with its assessment's `Instance`; no
override of split-brain. -/
def repairUntargeted (p : Platform) (result : TriageResult) (tr : Trace) :
    Trace × Except String RepairResult :=
  Repair.untargeted p
    ("HARD STOP: Split-brain detected. Cannot auto-heal all nodes. " ++
      "Admin must review triage output, then use targeted repair: --instance <N>")
    (fun t => .healNode t.pod t.instanceNum) result tr

/-- Phase 2.5: the escrow dump of the first member of the Primary component, unless
`--no-escrow`; skipped when the component is empty. -/
def escrowPhase (p : Platform) (cfg : Config) (start : Time) (result : TriageResult) :
    Trace × Option String :=
  if !cfg.noEscrow then
    if Repair.missingRepository cfg then ([], some Repair.escrowConfigError)
    else
      match result.dataComparison.primaryMembers with
      | donor :: _ => Repair.escrow p cfg dumpFilename donor start []
      | [] => ([], none)
  else ([], none)

/-- Phase 3: targeted with `--instance`, untargeted without. -/
def healPhase (p : Platform) (cfg : Config) (result : TriageResult) (tr : Trace) :
    Trace × Except String RepairResult :=
  match cfg.instanceNumber with
  | some n => repairTargeted p cfg n result tr
  | none => repairUntargeted p result tr

/-- `Repair`, started at `start`, on the `MariaDB` resource `mdb` whose collected evidence is
`data`. -/
def repair (p : Platform) (cfg : Config) (start : Time) (mdb : MariaDB) (data : TriageData) :
    Trace × Except String RepairResult :=
  let result := triageAnalyze cfg mdb data
  if !result.assessments.any (fun a => a.isRunning && a.isReady) then
    ([], .error ("ABORT: No healthy donor nodes found. All nodes are down or unhealthy. " ++
      "Cannot heal without a running donor to provide SST"))
  else
    match escrowPhase p cfg start result with
    | (tr, some e) => (tr, .error e)
    | (tr, none) => healPhase p cfg result (Repair.divergedPhase p cfg dumpFilename start result tr)

/-! ## Which calls a run makes -/

/-- The escrow phase makes the escrow dump of the component's first member, or nothing; when it
lets the run go on with escrow on and a non-empty component, the dump was made and returned
`nil`. -/
theorem escrowPhase_calls (p : Platform) (cfg : Config) (start : Time) (result : TriageResult) :
    (∀ c ∈ (escrowPhase p cfg start result).1.calls, c.isHeal = false) ∧
    ∀ tr donor rest, escrowPhase p cfg start result = (tr, none) → cfg.noEscrow = false →
      result.dataComparison.primaryMembers = donor :: rest →
      tr = [(Repair.escrowCall cfg dumpFilename donor start, none)] := by
  unfold escrowPhase
  split_ifs with he hm
  · simp
  · split
    next donor rest hpm =>
      refine ⟨by simp [Repair.escrow_fst, Repair.escrowCall, Call.isHeal], ?_⟩
      intro tr d r h _ hpm'
      rw [hpm] at hpm'
      cases hpm'
      simpa using Repair.escrow_ok h
    next hpm => exact ⟨by simp, fun _ _ _ _ _ h => by simp_all⟩
  · exact ⟨by simp, fun _ _ _ _ h => by simp_all⟩

/-- The targeted heal heals the node of its target, `<cluster>-<n>` with `n`, without `--force`
only under `SafeToHeal` and `NeedsHeal`. -/
theorem repairTargeted_calls (p : Platform) (cfg : Config) (n : Int) (result : TriageResult)
    (tr : Trace) :
    ∃ ext, (repairTargeted p cfg n result tr).1 = tr ++ ext ∧
      ∀ c ∈ ext.calls, ∃ a ∈ result.assessments, c = .healNode a.pod n ∧
        (cfg.force = false → a.needsHeal = true ∧ result.dataComparison.safeToHeal = true) ∧
        a.pod = cfg.clusterName ++ "-" ++ toString n := by
  unfold repairTargeted
  dsimp only
  split
  next => exact ⟨[], by simp⟩
  next a ha =>
  have hpod := List.find?_some ha
  simp only [beq_iff_eq] at hpod
  split
  next => exact ⟨[], by simp⟩
  next hs =>
  split
  next => exact ⟨[], by simp⟩
  next hn =>
  split
  next => exact ⟨[], by simp⟩
  rw [← hpod]
  refine ⟨[(.healNode a.pod n, (p.call tr (.healNode a.pod n)).2)], ?_, ?_⟩
  · rw [← Platform.call_fst]
    split <;> simp_all
  · simp only [Trace.calls_cons, Trace.calls_nil, List.mem_singleton, forall_eq]
    exact ⟨a, List.mem_of_find?_eq_some ha, rfl, Repair.targeted_gates hs hn, rfl⟩

/-- **The heal gate of phase 3.**  Every heal is of an assessment that triage marked `NeedsHeal`
under `SafeToHeal`, or is forced with `--force`. -/
theorem healPhase_calls (p : Platform) (cfg : Config) (result : TriageResult) (tr : Trace) :
    ∃ ext, (healPhase p cfg result tr).1 = tr ++ ext ∧
      ∀ c ∈ ext.calls, ∃ a ∈ result.assessments, ∃ k, c = .healNode a.pod k ∧
        (a.needsHeal = true ∧ result.dataComparison.safeToHeal = true ∨ cfg.force = true) := by
  unfold healPhase
  split
  · obtain ⟨ext, he, hc⟩ := repairTargeted_calls p cfg _ result tr
    refine ⟨ext, he, fun c h => ?_⟩
    obtain ⟨a, ha, rfl, hg, -⟩ := hc c h
    cases hf : cfg.force
    · exact ⟨a, ha, _, rfl, .inl (hg hf)⟩
    · exact ⟨a, ha, _, rfl, .inr rfl⟩
  · obtain ⟨ext, l, he, hc, hl⟩ := Repair.untargeted_calls p _ _ result tr
    refine ⟨ext, he, fun c h => ?_⟩
    rw [hc] at h
    obtain ⟨a, ha, rfl⟩ := List.mem_map.1 h
    exact ⟨a, (hl a ha).1, _, rfl, .inl (hl a ha).2⟩

/-- A run that heals got past the donor check and the escrow: its calls are those of the
escrow, then of phase 2.6, then of phase 3. -/
theorem repair_of_heal {p : Platform} {cfg : Config} {start : Time} {mdb : MariaDB}
    {data : TriageData} {c : Call} (hc : c ∈ (repair p cfg start mdb data).1.calls)
    (hh : c.isHeal = true) :
    ∃ tr, escrowPhase p cfg start (triageAnalyze cfg mdb data) = (tr, none) ∧
      (repair p cfg start mdb data).1 = (healPhase p cfg (triageAnalyze cfg mdb data)
        (Repair.divergedPhase p cfg dumpFilename start (triageAnalyze cfg mdb data) tr)).1 := by
  unfold repair at hc ⊢
  dsimp only at hc ⊢
  by_cases h0 : (!(triageAnalyze cfg mdb data).assessments.any
      (fun a => a.isRunning && a.isReady)) = true
  · simp [h0] at hc
  rw [if_neg h0] at hc ⊢
  rcases hes : escrowPhase p cfg start (triageAnalyze cfg mdb data) with ⟨tr, _ | e⟩
  · exact ⟨tr, rfl, rfl⟩
  · simp only [hes] at hc
    have := (escrowPhase_calls p cfg start (triageAnalyze cfg mdb data)).1 c
      (by rw [hes]; exact hc)
    rw [hh] at this
    cases this

/-- A heal of a run is a heal of its phase 3, run after the escrow and phase 2.6. -/
theorem repair_heal_of_healPhase {p : Platform} {cfg : Config} {start : Time} {mdb : MariaDB}
    {data : TriageData} {c : Call} (hc : c ∈ (repair p cfg start mdb data).1.calls)
    (hh : c.isHeal = true) :
    ∃ tr ext, (healPhase p cfg (triageAnalyze cfg mdb data) tr).1 = tr ++ ext ∧ c ∈ ext.calls := by
  obtain ⟨tr, htr, hrun⟩ := repair_of_heal hc hh
  obtain ⟨extD, heD, hD⟩ := Repair.divergedPhase_isHeal p cfg dumpFilename start
    (triageAnalyze cfg mdb data) tr
  obtain ⟨extH, heH, -⟩ := healPhase_calls p cfg (triageAnalyze cfg mdb data)
    (Repair.divergedPhase p cfg dumpFilename start (triageAnalyze cfg mdb data) tr)
  refine ⟨_, extH, heH, ?_⟩
  rw [hrun, heH, heD] at hc
  simp only [Trace.calls_append, List.mem_append] at hc
  rcases hc with (hc | hc) | hc
  · have := (escrowPhase_calls p cfg start (triageAnalyze cfg mdb data)).1 c (by rw [htr]; exact hc)
    rw [hh] at this
    cases this
  · exact absurd hh (by simp [hD c hc])
  · exact hc

/-- **Every heal of a Galera run.**  Every heal a run makes is of a member of triage's
assessments, marked `NeedsHeal` under `SafeToHeal`, or forced with `--force`. -/
theorem repair_heal_calls (p : Platform) (cfg : Config) (start : Time) (mdb : MariaDB)
    (data : TriageData) {c : Call} (hc : c ∈ (repair p cfg start mdb data).1.calls)
    (hh : c.isHeal = true) :
    ∃ a ∈ (triageAnalyze cfg mdb data).assessments, ∃ k, c = .healNode a.pod k ∧
      (a.needsHeal = true ∧ (triageAnalyze cfg mdb data).dataComparison.safeToHeal = true ∨
        cfg.force = true) := by
  obtain ⟨tr, ext, he, hc⟩ := repair_heal_of_healPhase hc hh
  obtain ⟨extH, heH, hH⟩ := healPhase_calls p cfg (triageAnalyze cfg mdb data) tr
  exact hH c (List.append_cancel_left (he.symm.trans heH) ▸ hc)

/-- The escrow phase dumps a member of the Primary component, or makes no call. -/
theorem escrowPhase_dumps (p : Platform) (cfg : Config) (start : Time) (result : TriageResult) :
    ∀ c ∈ (escrowPhase p cfg start result).1.calls, ∃ donor, c = Repair.escrowCall cfg dumpFilename donor start := by
  unfold escrowPhase
  split_ifs
  · simp
  · split
    · next donor _ _ => simp [Repair.escrow_fst]; exact ⟨donor, rfl⟩
    · simp
  · simp

/-- **The dumps of a Galera run.**  Every call of a run that is not a heal is the escrow dump of
some donor or the diverged capture of one of triage's assessments. -/
theorem repair_dumps (p : Platform) (cfg : Config) (start : Time) (mdb : MariaDB) (data : TriageData)
    {c : Call} (hc : c ∈ (repair p cfg start mdb data).1.calls) (hh : c.isHeal = false) :
    (∃ donor, c = Repair.escrowCall cfg dumpFilename donor start) ∨
      ∃ a ∈ (triageAnalyze cfg mdb data).assessments, c = Repair.divergedCall cfg dumpFilename start a := by
  have hesc := escrowPhase_dumps p cfg start (triageAnalyze cfg mdb data) c
  unfold repair at hc
  dsimp only at hc
  split_ifs at hc
  · cases hc
  split at hc
  · next tr e hes => exact .inl (hesc (by rw [hes]; exact hc))
  · next tr hes =>
    obtain ⟨extD, heD, hD⟩ := Repair.divergedPhase_calls p cfg dumpFilename start
      (triageAnalyze cfg mdb data) tr
    obtain ⟨extH, heH, hH⟩ := healPhase_calls p cfg (triageAnalyze cfg mdb data)
      (Repair.divergedPhase p cfg dumpFilename start (triageAnalyze cfg mdb data) tr)
    rw [heH, heD] at hc
    simp only [Trace.calls_append, List.mem_append] at hc
    rcases hc with (hc | hc) | hc
    · exact .inl (hesc (by rw [hes]; exact hc))
    · rw [hD] at hc
      split_ifs at hc
      · obtain ⟨a, ha, rfl⟩ := List.mem_map.1 hc
        exact .inr ⟨a, (List.mem_filter.1 ha).1, rfl⟩
      · cases hc
    · obtain ⟨a, -, k, rfl, -⟩ := hH c hc
      cases hh

/-! ## The freshest node -/

/-- **No heal of the freshest node, given a Primary component.**  Without `--force`, and with at
least one node reporting `Primary`, a run never heals a node whose effective seqno is positive
and above that of every Primary node. -/
theorem repair_spares_freshest (p : Platform) (cfg : Config) (start : Time) (mdb : MariaDB)
    (data : TriageData) (hf : cfg.force = false) (hpm : primaryMembers data ≠ [])
    {gs : Grastate} (hgs : gs ∈ data.grastateData) (hpos : 0 < effSeqno mdb data gs.pod)
    (hfresh : ∀ m ∈ primaryMembers data, effSeqno mdb data m < effSeqno mdb data gs.pod)
    (k : Int) : Call.healNode gs.pod k ∉ (repair p cfg start mdb data).1.calls := by
  intro hc
  obtain ⟨a, -, -, -, hg⟩ := repair_heal_calls p cfg start mdb data hc rfl
  have hunsafe := safeToHeal_eq_false_of_freshest mdb data hpm hgs hpos hfresh
  rcases hg with ⟨-, hs⟩ | hf'
  · exact absurd (hs.symm.trans hunsafe) (by decide)
  · exact absurd (hf.symm.trans hf') (by decide)

/-- Spec scenario 4: the Primary component `g-0`, `g-1` at seqno 100, and `g-2`, reporting
`non-Primary`, at seqno 150. -/
def aheadData : TriageData :=
  { runningPods := ["g-0", "g-1", "g-2"], missingNodes := [], crashloopPods := [],
    grastateData := [⟨"g-0", "exec", "u", "-1", "0"⟩, ⟨"g-1", "exec", "u", "-1", "0"⟩,
      ⟨"g-2", "exec", "u", "-1", "0"⟩],
    wsrepMap := [("g-0", syncedStatus "u" "Primary" 100), ("g-1", syncedStatus "u" "Primary" 100),
      ("g-2", syncedStatus "u" "non-Primary" 150)],
    diskUsage := fun _ => 10, crashReasons := fun _ => "",
    grastate_nodup := by decide, wsrep_nodup := by decide }

/-- A three-node resource with no recovery data from the operator. -/
def threeReplicas : MariaDB := ⟨3, fun _ => none, fun _ => none⟩

/-- The repair configuration of the runs below: untargeted, escrow into `/backups`. -/
def escrowConfig : Config :=
  { clusterName := "g", ns := "db", backupsPath := "/backups", resticPassword := "secret" }

theorem repair_spares_aheadData :
    escrowConfig.force = false ∧ primaryMembers aheadData ≠ [] ∧
      (⟨"g-2", "exec", "u", "-1", "0"⟩ : Grastate) ∈ aheadData.grastateData ∧
      0 < effSeqno threeReplicas aheadData "g-2" ∧
      (∀ m ∈ primaryMembers aheadData,
        effSeqno threeReplicas aheadData m < effSeqno threeReplicas aheadData "g-2") ∧
      Call.healNode "g-2" 2 ∉
        (repair Platform.healthy escrowConfig ⟨1719835200⟩ threeReplicas aheadData).1.calls :=
  ⟨by decide, by decide, by decide, by decide, by decide,
    repair_spares_freshest Platform.healthy escrowConfig ⟨1719835200⟩ threeReplicas aheadData
      (by decide) (by decide)
      (show (⟨"g-2", "exec", "u", "-1", "0"⟩ : Grastate) ∈ aheadData.grastateData by decide)
      (by decide) (by decide) 2⟩

/-- No node reports `Primary`: `g-0` runs, synced, but its status lacks `wsrep_cluster_status`;
`g-1` has no pod, and the `grastate.dat` probed from its volume records seqno 7. -/
def noPrimaryData : TriageData :=
  { runningPods := ["g-0"], missingNodes := ["g-1"], crashloopPods := [],
    grastateData := [⟨"g-0", "exec", "u", "-1", "0"⟩, ⟨"g-1", "pvc_probe", "u", "7", "0"⟩],
    wsrepMap := [("g-0", syncedStatus "u" "" (-1))],
    diskUsage := fun _ => 10, crashReasons := fun _ => "",
    grastate_nodup := by decide, wsrep_nodup := by decide }

theorem repair_heals_freshest_without_primary :
    escrowConfig.force = false ∧ primaryMembers noPrimaryData = [] ∧
      0 < effSeqno twoReplicas noPrimaryData "g-1" ∧
      Call.healNode "g-1" 0 ∈
        (repair Platform.healthy escrowConfig ⟨1719835200⟩ twoReplicas noPrimaryData).1.calls := by
  decide

/-! ## The escrow -/

/-- **Escrow comes first, given a Primary component.**  With escrow on and at least one node
reporting `Primary`, a run that heals began with the escrow dump of the component's first
member, stamped with the run's start, and that dump returned `nil`. -/
theorem repair_escrow_first (p : Platform) (cfg : Config) (start : Time) (mdb : MariaDB)
    (data : TriageData) (he : cfg.noEscrow = false) {donor : String} {rest : List String}
    (hpm : primaryMembers data = donor :: rest) {c : Call}
    (hc : c ∈ (repair p cfg start mdb data).1.calls) (hh : c.isHeal = true) :
    ∃ tail, (repair p cfg start mdb data).1 =
      (Repair.escrowCall cfg dumpFilename donor start, none) :: tail := by
  obtain ⟨tr, htr, hrun⟩ := repair_of_heal hc hh
  have := (escrowPhase_calls p cfg start (triageAnalyze cfg mdb data)).2 tr donor rest htr he hpm
  subst this
  obtain ⟨extD, heD, -⟩ := Repair.divergedPhase_isHeal p cfg dumpFilename start
    (triageAnalyze cfg mdb data) [(Repair.escrowCall cfg dumpFilename donor start, none)]
  obtain ⟨extH, heH, -⟩ := healPhase_calls p cfg (triageAnalyze cfg mdb data)
    (Repair.divergedPhase p cfg dumpFilename start (triageAnalyze cfg mdb data)
      [(Repair.escrowCall cfg dumpFilename donor start, none)])
  exact ⟨extD ++ extH, by rw [hrun, heH, heD]; simp⟩

theorem repair_heals_without_escrow :
    escrowConfig.noEscrow = false ∧
      (repair Platform.healthy escrowConfig ⟨1719835200⟩ twoReplicas noPrimaryData).1.calls =
        [.healNode "g-0" 0, .healNode "g-1" 0] := by
  decide

/-! ## The diverged captures -/

/-- `buildAssessments` never sets `Instance`: every Galera assessment reads as instance `0`. -/
theorem triage_instanceNum (cfg : Config) (mdb : MariaDB) (data : TriageData) :
    ∀ a ∈ (triageAnalyze cfg mdb data).assessments, a.instanceNum = 0 := by
  intro a ha
  obtain ⟨gs, -, rfl⟩ := List.mem_map.1 ha
  rfl

/-- So all diverged captures of a Galera run are written to one path,
`<ns>/<cluster>/0-mysqldump.sql`. -/
theorem divergedPath_eq (cfg : Config) (mdb : MariaDB) (data : TriageData) :
    ∀ a ∈ (triageAnalyze cfg mdb data).assessments, ∀ b ∈ (triageAnalyze cfg mdb data).assessments,
      Repair.divergedPath cfg dumpFilename a = Repair.divergedPath cfg dumpFilename b := by
  intro a ha b hb
  simp only [Repair.divergedPath, triage_instanceNum cfg mdb data a ha,
    triage_instanceNum cfg mdb data b hb]

end Galera
end Hasteward
