import Hasteward.Galera.Triage

/-!
# The Galera split-brain verdict

`crossInstanceComparison` (`Hasteward.Galera.Triage`) concatenates three lists of flags and
reports `SafeToHeal` when all three are empty.  This file turns that into a statement about the
evidence:

* `splitBrain_iff`: triage reports split-brain exactly when more than one cluster UUID
  is seen, or some queried node reports a `wsrep_cluster_status` that is neither empty nor
  `Primary`, or the Primary component is not empty and some node outside it has a positive
  effective seqno above the component's best.  The second condition fires whatever the node's
  seqno, and the third is skipped entirely when no node reports `Primary`.
* `nonPrimary_case_status`: as a consequence, the switch's "non-primary component" case — rule 5
  of the specification — is reached only by a node whose status is the *empty* string; a node
  reporting an actual non-Primary status is always routed to the split-brain case, which never
  asks for a heal (`needsHeal_eq_false_of_status`).  `splitBrain_verdict` states the three
  together; `nonPrimary_behind_not_healed` is a node of the second kind.
* `mostAdvanced_max`: `MostAdvanced` is a node with the largest effective seqno, and
  `MostAdvancedValue` that seqno.
* `safeToHeal_eq_false_of_freshest`: when some node does report `Primary`, a node whose
  effective seqno is positive and above that of every Primary node makes triage unsafe.  This is
  what the repair gates rely on (`Hasteward.Galera.Repair`).
-/

set_option autoImplicit false

namespace Hasteward
namespace Galera

/-! ## Lists as Go maps -/

theorem mem_of_lookup_eq_some {β : Type} {l : List (String × β)} {k : String} {b : β}
    (h : l.lookup k = some b) : (k, b) ∈ l := by
  obtain ⟨l₁, l₂, rfl, -⟩ := List.lookup_eq_some_iff.1 h
  simp

/-- In a list with one entry per key, the entry of a key is what `lookup` finds. -/
theorem lookup_eq_some_of_mem {β : Type} {l : List (String × β)} {k : String} {b : β}
    (hnd : (l.map (·.1)).Nodup) (h : (k, b) ∈ l) : l.lookup k = some b := by
  induction l with
  | nil => cases h
  | cons p l ih =>
    obtain ⟨k', b'⟩ := p
    obtain ⟨hp, hnd⟩ := List.nodup_cons.1 hnd
    rcases List.mem_cons.1 h with e | h
    · cases e; simp
    · have hk : (k == k') = false :=
        beq_eq_false_iff_ne.2 fun e => hp (e ▸ List.mem_map.2 ⟨(k, b), h, rfl⟩)
      rw [List.lookup_cons, hk]
      exact ih hnd h

/-! ## The effective seqno of a node -/

/-- The effective seqno `buildAssessments` reads for a node: its entry, or `-1` without one. -/
def effSeqno (mdb : MariaDB) (data : TriageData) (pod : String) : Int :=
  match (effectiveSeqnos mdb data).lookup pod with
  | some e => e.value
  | none => -1

theorem effectiveSeqnos_nodup (mdb : MariaDB) (data : TriageData) :
    ((effectiveSeqnos mdb data).map (·.1)).Nodup := by
  simpa [effectiveSeqnos, List.map_map, Function.comp_def] using data.grastate_nodup

/-- The component's best is below any value above every member's seqno and above `-2`. -/
theorem bestPrimary_lt (mdb : MariaDB) (data : TriageData) {v : Int} (hv : -2 < v)
    (hm : ∀ m ∈ primaryMembers data, effSeqno mdb data m < v) : (bestPrimary mdb data).1 < v := by
  suffices h : ∀ (ms : List String) (b : Int × String), b.1 < v →
      (∀ m ∈ ms, effSeqno mdb data m < v) → (ms.foldl (bestPrimaryStep mdb data) b).1 < v from
    h _ _ hv hm
  intro ms
  induction ms with
  | nil => exact fun b hb _ => hb
  | cons m ms ih =>
    refine fun b hb hms => ih _ ?_ fun m' h => hms m' (List.mem_cons_of_mem _ h)
    have hm0 := hms m (List.mem_cons_self _ _)
    unfold bestPrimaryStep
    unfold effSeqno at hm0
    split <;> rename_i es hes
    · simp only [hes] at hm0; split_ifs <;> assumption
    · exact hb

/-! ## The verdict -/

theorem uuidFlags_eq_nil (data : TriageData) : uuidFlags data = [] ↔ (uuidSet data).length ≤ 1 := by
  unfold uuidFlags
  split_ifs with h <;> simp <;> omega

theorem statusFlags_eq_nil (data : TriageData) :
    statusFlags data = [] ↔
      ∀ p ∈ data.wsrepMap, p.2.clusterStatus = "" ∨ p.2.clusterStatus = "Primary" := by
  simp only [statusFlags, List.map_eq_nil_iff, List.filter_eq_nil_iff, Bool.and_eq_true,
    bne_iff_ne, ne_eq, not_and_or, not_not]

theorem aheadOfComponent_iff (mdb : MariaDB) (data : TriageData) (p : String × EffectiveSeqno) :
    aheadOfComponent mdb data p = true ↔
      p.1 ∉ primaryMembers data ∧ p.2.value > (bestPrimary mdb data).1 ∧ p.2.value > 0 := by
  simp [aheadOfComponent, and_assoc]

theorem seqnoFlags_eq_nil (mdb : MariaDB) (data : TriageData) :
    seqnoFlags mdb data = [] ↔
      (primaryMembers data ≠ [] → ∀ p ∈ effectiveSeqnos mdb data, aheadOfComponent mdb data p = false) := by
  unfold seqnoFlags
  split_ifs with h
  · simp_all
  · simp_all [List.filter_eq_nil_iff]

/-- **I-SAFE for Galera, as the code has it.**  Split-brain is reported exactly when more than one
cluster UUID is seen, or a queried node reports a status that is neither empty nor `Primary`, or
— with a non-empty Primary component — a node outside it has a positive effective seqno above the
component's best. -/
theorem splitBrain_iff (mdb : MariaDB) (data : TriageData) :
    (crossInstanceComparison mdb data).safeToHeal = false ↔
      1 < (uuidSet data).length ∨
      (∃ p ∈ data.wsrepMap, p.2.clusterStatus ≠ "" ∧ p.2.clusterStatus ≠ "Primary") ∨
      (primaryMembers data ≠ [] ∧ ∃ p ∈ effectiveSeqnos mdb data,
        p.1 ∉ primaryMembers data ∧ p.2.value > (bestPrimary mdb data).1 ∧ p.2.value > 0) := by
  have h1 := uuidFlags_eq_nil data
  have h2 := statusFlags_eq_nil data
  have h3 := seqnoFlags_eq_nil mdb data
  simp only [crossInstanceComparison, Bool.eq_false_iff, ne_eq, List.isEmpty_iff,
    List.append_eq_nil, h1, h2, h3, not_and_or, not_le, not_forall, exists_prop,
    Classical.not_imp, Bool.not_eq_false, aheadOfComponent_iff, or_assoc, not_or, not_not]

/-- Triage that reports `SafeToHeal` raised no non-primary component flag. -/
theorem statusFlags_eq_nil_of_safe {mdb : MariaDB} {data : TriageData}
    (h : (crossInstanceComparison mdb data).safeToHeal = true) : statusFlags data = [] := by
  simp only [crossInstanceComparison, List.isEmpty_iff, List.append_eq_nil] at h
  exact h.1.2

/-- The split-brain case heals nothing, whichever of its three texts it picks. -/
theorem verdict_splitBrain_needsHeal (cfg : Config) (bestPrimarySeqno : Int) (pod : String)
    (f : Facts) : (verdict cfg bestPrimarySeqno pod f .splitBrain).needsHeal = false := by
  dsimp only [verdict]
  split_ifs <;> rfl

/-- The switch's fifth case needs `SafeToHeal`, a running node, and a status that is neither
`Primary` nor the `unknown` of a node without a wsrep entry. -/
theorem Facts.case_nonPrimary {f : Facts} {safe : Bool} (h : f.case safe = .nonPrimary) :
    safe = true ∧ f.wsClusterStatus ≠ "Primary" ∧ f.wsClusterStatus ≠ "unknown" := by
  cases safe
  · nomatch h
  refine ⟨rfl, fun hp => ?_, fun hu => ?_⟩
  · simp [Facts.case, hp, ite_eq_iff] at h
  · simp [Facts.case, hu, ite_eq_iff] at h

/-- With split-brain reported, every node lands in the split-brain case, which heals nothing. -/
theorem needsHeal_eq_false_of_unsafe {cfg : Config} {mdb : MariaDB} {data : TriageData}
    {comparison : DataComparison} (gs : Grastate) (h : comparison.safeToHeal = false) :
    (assess cfg mdb data comparison gs).needsHeal = false := by
  rw [assess_needsHeal, h]
  exact verdict_splitBrain_needsHeal _ _ _ _

/-- A node reporting a status that is neither empty nor `Primary` is never marked for a heal:
its status alone makes triage report split-brain. -/
theorem needsHeal_eq_false_of_status {cfg : Config} {mdb : MariaDB} {data : TriageData}
    (gs : Grastate) {ws : WsrepStatus} (hws : (gs.pod, ws) ∈ data.wsrepMap)
    (hs : ws.clusterStatus ≠ "") (hp : ws.clusterStatus ≠ "Primary") :
    (assess cfg mdb data (crossInstanceComparison mdb data) gs).needsHeal = false :=
  needsHeal_eq_false_of_unsafe gs
    ((splitBrain_iff mdb data).2 (.inr (.inl ⟨_, hws, hs, hp⟩)))

/-- Rule 5, the non-primary component case, is reached only by a node whose status is empty. -/
theorem nonPrimary_case_status {mdb : MariaDB} {data : TriageData} {gs : Grastate}
    (h : (facts mdb data (crossInstanceComparison mdb data).bestPrimarySeqno gs).case
      (crossInstanceComparison mdb data).safeToHeal = .nonPrimary) :
    ∃ ws, data.wsrepMap.lookup gs.pod = some ws ∧ ws.clusterStatus = "" := by
  obtain ⟨hsafe, hP, hU⟩ := Facts.case_nonPrimary h
  cases hl : data.wsrepMap.lookup gs.pod with
  | none => simp [facts, hl] at hU
  | some ws =>
    simp only [facts, hl] at hP
    rcases (statusFlags_eq_nil data).1 (statusFlags_eq_nil_of_safe hsafe) _
      (mem_of_lookup_eq_some hl) with h0 | h0
    · exact ⟨ws, rfl, h0⟩
    · exact absurd h0 hP

/-- **I-SAFE for Galera, and rule 5.**  Triage reports split-brain exactly when more than one
cluster UUID is seen, or a queried node reports a status that is neither empty nor `Primary`, or
— with a non-empty Primary component — a node outside it has a positive effective seqno above
the component's best.  A node that reports a status neither empty nor `Primary` is therefore
never marked `NeedsHeal`, and the non-primary case of the switch is reached only by a node whose
status is empty. -/
theorem splitBrain_verdict (cfg : Config) (mdb : MariaDB) (data : TriageData) :
    ((crossInstanceComparison mdb data).safeToHeal = false ↔
      1 < (uuidSet data).length ∨
      (∃ p ∈ data.wsrepMap, p.2.clusterStatus ≠ "" ∧ p.2.clusterStatus ≠ "Primary") ∨
      (primaryMembers data ≠ [] ∧ ∃ p ∈ effectiveSeqnos mdb data,
        p.1 ∉ primaryMembers data ∧ p.2.value > (bestPrimary mdb data).1 ∧ p.2.value > 0)) ∧
    (∀ (gs : Grastate) (ws : WsrepStatus), (gs.pod, ws) ∈ data.wsrepMap →
      ws.clusterStatus ≠ "" → ws.clusterStatus ≠ "Primary" →
      (assess cfg mdb data (crossInstanceComparison mdb data) gs).needsHeal = false) ∧
    ∀ gs : Grastate, (facts mdb data (crossInstanceComparison mdb data).bestPrimarySeqno gs).case
        (crossInstanceComparison mdb data).safeToHeal = .nonPrimary →
      ∃ ws, data.wsrepMap.lookup gs.pod = some ws ∧ ws.clusterStatus = "" :=
  ⟨splitBrain_iff mdb data, fun gs _ hws hs hp => needsHeal_eq_false_of_status gs hws hs hp,
    fun _ h => nonPrimary_case_status h⟩

/-- A two-node resource with no recovery data from the operator. -/
def twoReplicas : MariaDB := ⟨2, fun _ => none, fun _ => none⟩

/-- A node's wsrep status as a synced, connected, ready node reports it. -/
def syncedStatus (uuid clusterStatus : String) (lastCommitted : Int) : WsrepStatus :=
  { localState := 4, localStateComment := "Synced", clusterStatus := clusterStatus,
    connected := "ON", ready := "ON", clusterStateUUID := uuid, lastCommitted := lastCommitted }

/-- Two running nodes of one cluster: `g-0` in the Primary component at seqno 10, and `g-1`
reporting `non-Primary` at seqno 5, behind it. -/
def nonPrimaryData : TriageData :=
  { runningPods := ["g-0", "g-1"], missingNodes := [], crashloopPods := [],
    grastateData := [⟨"g-0", "exec", "u", "-1", "0"⟩, ⟨"g-1", "exec", "u", "-1", "0"⟩],
    wsrepMap := [("g-0", syncedStatus "u" "Primary" 10), ("g-1", syncedStatus "u" "non-Primary" 5)],
    diskUsage := fun _ => 10, crashReasons := fun _ => "",
    grastate_nodup := by decide, wsrep_nodup := by decide }

theorem nonPrimary_behind_not_healed :
    (uuidSet nonPrimaryData).length ≤ 1 ∧
      (∀ p ∈ effectiveSeqnos twoReplicas nonPrimaryData, p.1 ∉ primaryMembers nonPrimaryData →
        p.2.value ≤ (bestPrimary twoReplicas nonPrimaryData).1) ∧
      (crossInstanceComparison twoReplicas nonPrimaryData).safeToHeal = false ∧
      (assess { clusterName := "g", ns := "db" } twoReplicas nonPrimaryData
        (crossInstanceComparison twoReplicas nonPrimaryData) ⟨"g-1", "exec", "u", "-1", "0"⟩).needsHeal =
        false := by
  decide

/-! ## The most advanced node -/

/-- A node's effective seqno is never below `-1`, where its loop starts. -/
theorem neg_one_le_effectiveSeqno (mdb : MariaDB) (data : TriageData) (gs : Grastate) :
    -1 ≤ (effectiveSeqno mdb data gs).value :=
  (foldl_keepMax (·.1) id _ ((-1, "none") : Int × String)).2.1

/-- **The most advanced node.**  `MostAdvancedValue` is at least every node's effective seqno.
With no grastate record it is `-2` and `MostAdvanced` is empty; otherwise `MostAdvanced` is a node
whose effective seqno it is. -/
theorem mostAdvanced_max (mdb : MariaDB) (data : TriageData) :
    (∀ gs ∈ data.grastateData,
        (effectiveSeqno mdb data gs).value ≤ (crossInstanceComparison mdb data).mostAdvancedValue) ∧
      (data.grastateData = [] → (crossInstanceComparison mdb data).mostAdvanced = "" ∧
        (crossInstanceComparison mdb data).mostAdvancedValue = -2) ∧
      (data.grastateData ≠ [] → ∃ gs ∈ data.grastateData,
        (crossInstanceComparison mdb data).mostAdvanced = gs.pod ∧
        (crossInstanceComparison mdb data).mostAdvancedValue = (effectiveSeqno mdb data gs).value) := by
  have hb : bestSeqno mdb data = data.grastateData.foldl
      (keepMax (·.2) fun gs => (gs.pod, (effectiveSeqno mdb data gs).value)) ("", -2) := rfl
  obtain ⟨hr, -, hall⟩ := foldl_keepMax (·.2) (fun gs : Grastate =>
    (gs.pod, (effectiveSeqno mdb data gs).value)) data.grastateData ("", -2)
  rw [← hb] at hr hall
  refine ⟨hall, fun he => by simp [crossInstanceComparison, bestSeqno, he], fun hne => ?_⟩
  rcases hr with hr | ⟨gs, hgs, hr⟩
  · obtain ⟨g, hg⟩ := List.exists_mem_of_ne_nil _ hne
    have h1 := hall g hg
    have h2 := neg_one_le_effectiveSeqno mdb data g
    simp only [hr] at h1
    omega
  · exact ⟨gs, hgs, by simp [crossInstanceComparison, hr]⟩

/-! ## What the repair gates rely on -/

/-- With a non-empty Primary component, a node whose effective seqno is positive and above that
of every Primary node makes triage report split-brain. -/
theorem safeToHeal_eq_false_of_freshest (mdb : MariaDB) (data : TriageData)
    (hpm : primaryMembers data ≠ []) {gs : Grastate} (hgs : gs ∈ data.grastateData)
    (hpos : 0 < effSeqno mdb data gs.pod)
    (hfresh : ∀ m ∈ primaryMembers data, effSeqno mdb data m < effSeqno mdb data gs.pod) :
    (crossInstanceComparison mdb data).safeToHeal = false := by
  have hmem : (gs.pod, effectiveSeqno mdb data gs) ∈ effectiveSeqnos mdb data :=
    List.mem_map_of_mem (fun gs => (gs.pod, effectiveSeqno mdb data gs)) hgs
  have hval : effSeqno mdb data gs.pod = (effectiveSeqno mdb data gs).value := by
    simp [effSeqno, lookup_eq_some_of_mem (effectiveSeqnos_nodup mdb data) hmem]
  refine (splitBrain_iff mdb data).2 (.inr (.inr ⟨hpm, _, hmem, ?_, ?_, ?_⟩))
  · exact fun hin => Int.lt_irrefl _ (hfresh gs.pod hin)
  · rw [← hval]; exact bestPrimary_lt mdb data (by omega) hfresh
  · rw [← hval]; exact hpos

end Galera
end Hasteward
