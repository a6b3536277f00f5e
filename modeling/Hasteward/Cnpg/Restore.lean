import Hasteward.Cnpg.Heal
import Hasteward.Cnpg.Repair

/-!
# CNPG's `restoreDump`, call by call

`restoreDump` streams a dump from the archiver into the primary's `psql`.  Around the stream it
fences the replicas, so that CNPG leaves them alone while the primary's data is replaced, and
afterwards lifts the fence and deletes them, so that they re-sync from the restored primary.
The calls go to the same `ClusterApi` as the heal's, and the stream's outcome is a parameter:
what `ExecStream` returned, and the archiver's answer to the `DumpRequest`.

Unlike `healInstance`, the restore does not read the fence list before it writes it: it fences
all the replicas at once, the patch setting `cnpg.io/fencedInstances` to their list, and lifts
every fence at the end, `unfenceAll` setting it to `"[]"`.  So a fence that was there before, such
as the one a failed heal leaves, is not kept (`restoreDump_drops_fence_healLeft`).

* `restoreDump_cases`: the runs of `restoreDump`, one per exit.
* `restoreDump_fence_exit`: at every exit the annotation is the one before the run, the replicas'
  list, or `"[]"`; it is `"[]"` once `unfenceAll`'s patch was accepted.
* `restoreDump_clears_fences`: a restore that gets past the primary's check, with its patches
  accepted and either a replica to fence or a stream that failed, leaves no instance fenced,
  whatever was fenced before it began.
-/

set_option autoImplicit false

namespace Hasteward
namespace Cnpg

open K8s

/-- The replicas: the instance names other than the primary's, in order. -/
def replicaNames (primary : String) (instanceNames : List String) : List String :=
  instanceNames.filter (· != primary)

/-- "Fence replicas before restore": one patch setting the list to the replicas, when there is
one. -/
def fenceReplicas (c : ClusterApi) (replicas : List String) (tr : Run ApiCall) :
    Run ApiCall × Option String :=
  if replicas = [] then (tr, none) else tr.call c.err (.patchFence (some (marshalStrings replicas)))

/-- `unfenceAll(ctx, ns)`: patch the list to `"[]"`; an error is only logged. -/
def unfenceAll (c : ClusterApi) (tr : Run ApiCall) : Run ApiCall :=
  (tr.call c.err (.patchFence (some "[]"))).1

/-- The deletion of every replica's pod, whose errors are ignored. -/
def deleteReplicas (c : ClusterApi) (replicas : List String) (tr : Run ApiCall) : Run ApiCall :=
  replicas.foldl (fun tr r => (tr.call c.err (.deletePod r)).1) tr

/-- `restoreDump(ctx)` for a cluster whose `status.currentPrimary` is `cl.currentPrimary` and
whose `status.instanceNames` lists `instanceNames`; `execErr` is what `ExecStream` of `psql`
returned and `dump` the archiver's answer to a request.  On success it returns the snapshot id. -/
def restoreDump (c : ClusterApi) (cfg : Config) (cl : Cluster) (instanceNames : List String)
    (execErr : Option String) (dump : DumpRequest → Option String) :
    Run ApiCall × Except String String :=
  let req := dumpRequest "cnpg" dumpFilename cfg
  let primary := cl.currentPrimary
  match c.getPod [] primary with
  | (tr, .error e) => (tr, .error ("primary pod " ++ primary ++ " not found: " ++ e))
  | (tr, .ok pod) =>
    if !pod.runningReady then (tr, .error ("primary pod " ++ primary ++ " is not running and ready"))
    else
      let replicas := replicaNames primary instanceNames
      match fenceReplicas c replicas tr with
      | (tr, some e) => (tr, .error ("failed to fence replicas: " ++ e))
      | (tr, none) =>
        match execErr, dump req with
        | some e, _ => (unfenceAll c tr, .error ("restore stream failed: " ++ e))
        | none, some e => (unfenceAll c tr, .error ("restic dump failed: " ++ e))
        | none, none =>
          if replicas = [] then (tr, .ok req.snapshotID)
          else (deleteReplicas c replicas (unfenceAll c tr), .ok req.snapshotID)

/-! ## The annotation through a restore -/

/-- The fence sets the annotation to the replicas' list when it patched and was accepted. -/
theorem fenceReplicas_fencedInstances (c : ClusterApi) (replicas : List String) (tr : Run ApiCall) :
    c.fencedInstances (fenceReplicas c replicas tr).1 =
      if replicas ≠ [] ∧ (fenceReplicas c replicas tr).2 = none then some (marshalStrings replicas)
      else c.fencedInstances tr := by
  unfold fenceReplicas
  by_cases hr : replicas = []
  · simp [hr]
  · cases he : c.err tr.calls (.patchFence (some (marshalStrings replicas))) <;>
      simp [hr, he, ClusterApi.fencedInstances_append, applyPatch]

theorem fencedInstances_unfenceAll (c : ClusterApi) (tr : Run ApiCall) :
    c.fencedInstances (unfenceAll c tr) =
      if c.err tr.calls (.patchFence (some "[]")) = none then some "[]" else c.fencedInstances tr := by
  cases he : c.err tr.calls (.patchFence (some "[]")) <;>
    simp [unfenceAll, he, ClusterApi.fencedInstances_append, applyPatch]

theorem deleteReplicas_extends (c : ClusterApi) :
    ∀ (replicas : List String) (tr : Run ApiCall),
      tr.Extends (fun a => ∃ r, a = .deletePod r) (deleteReplicas c replicas tr)
  | [], tr => .refl _ tr
  | r :: replicas, tr =>
    (Run.Extends.call c.err tr ⟨r, rfl⟩).trans (deleteReplicas_extends c replicas _)

/-- The deletions leave the annotation as it is. -/
theorem fencedInstances_deleteReplicas (c : ClusterApi) (replicas : List String) (tr : Run ApiCall) :
    c.fencedInstances (deleteReplicas c replicas tr) = c.fencedInstances tr :=
  (fencedInstances_of_extends (fun _ ⟨_, h⟩ => h ▸ rfl) (deleteReplicas_extends c replicas tr) c).1

/-- **The runs of `restoreDump`.**  The primary's read, and then: nothing more, when it failed or
found the primary not ready; the fence, when it failed; the fence and `unfenceAll`, when the
stream failed; and on success the fence, then, when there are replicas, `unfenceAll` and their
deletions. -/
theorem restoreDump_cases (c : ClusterApi) (cfg : Config) (cl : Cluster) (instanceNames : List String)
    (execErr : Option String) (dump : DumpRequest → Option String) :
    let primary := cl.currentPrimary
    let ready := c.err [] (.getPod primary) = none ∧ (c.pod [] primary).runningReady = true
    let replicas := replicaNames primary instanceNames
    let F := fenceReplicas c replicas [(.getPod primary, none)]
    let streamed := execErr = none ∧ dump (dumpRequest "cnpg" dumpFilename cfg) = none
    let r := restoreDump c cfg cl instanceNames execErr dump
    (¬ready ∧ r.1 = [(.getPod primary, c.err [] (.getPod primary))]) ∨
    (ready ∧ F.2 ≠ none ∧ r.1 = F.1) ∨
    (ready ∧ F.2 = none ∧ ¬streamed ∧ r.1 = unfenceAll c F.1) ∨
    (ready ∧ F.2 = none ∧ streamed ∧
      r.1 = if replicas = [] then F.1 else deleteReplicas c replicas (unfenceAll c F.1)) := by
  dsimp only
  cases hg : c.err [] (.getPod cl.currentPrimary) with
  | some e =>
    exact .inl ⟨fun h => Option.noConfusion h.1, by simp [restoreDump, ClusterApi.getPod, Run.call, hg]⟩
  | none =>
    simp only [restoreDump, ClusterApi.getPod, Run.call, Run.calls_nil, List.nil_append, hg]
    split
    · next hr => exact .inl ⟨fun h => by simp [h.2] at hr, rfl⟩
    · next hr =>
      have hready : (c.pod [] cl.currentPrimary).runningReady = true := by simpa using hr
      split
      · next trF e hF => exact .inr (.inl ⟨⟨trivial, hready⟩, by simp [hF], by rw [hF]⟩)
      · next trF hF =>
        rw [hF]
        refine .inr (.inr ?_)
        split
        · next e _ => exact .inl ⟨⟨trivial, hready⟩, rfl, fun h => Option.noConfusion h.1, rfl⟩
        · next e hd => exact .inl ⟨⟨trivial, hready⟩, rfl, fun h => by simp [hd] at h, rfl⟩
        · next he hd => exact .inr ⟨⟨trivial, hready⟩, rfl, ⟨rfl, hd⟩, by split <;> rfl⟩

/-- **The fence at every exit of `restoreDump`.**  For every cluster, every annotation before the
run and every outcome of the stream, the annotation after `restoreDump` is the one before it,
the list of the replicas, or `"[]"`: the instances fenced before the restore survive it only
together, when neither of its patches was accepted. -/
theorem restoreDump_fence_exit (c : ClusterApi) (cfg : Config) (cl : Cluster)
    (instanceNames : List String) (execErr : Option String) (dump : DumpRequest → Option String) :
    let r := restoreDump c cfg cl instanceNames execErr dump
    c.fencedInstances r.1 = c.fence ∨
      c.fencedInstances r.1 = some (marshalStrings (replicaNames cl.currentPrimary instanceNames)) ∨
      c.fencedInstances r.1 = some "[]" := by
  intro r
  have hread : c.fencedInstances [(.getPod cl.currentPrimary, c.err [] (.getPod cl.currentPrimary))] =
      c.fence := rfl
  -- after the fence: the annotation before the run, or the replicas' list
  have hF := fenceReplicas_fencedInstances c (replicaNames cl.currentPrimary instanceNames)
    [(.getPod cl.currentPrimary, none)]
  have hFcases : ∀ tr, c.fencedInstances tr = c.fencedInstances
      (fenceReplicas c (replicaNames cl.currentPrimary instanceNames) [(.getPod cl.currentPrimary, none)]).1 →
      c.fencedInstances tr = c.fence ∨
        c.fencedInstances tr = some (marshalStrings (replicaNames cl.currentPrimary instanceNames)) := by
    intro tr h
    rw [h, hF]
    split
    · exact .inr rfl
    · exact .inl rfl
  have hU : ∀ tr, c.fencedInstances (unfenceAll c tr) = some "[]" ∨
      c.fencedInstances (unfenceAll c tr) = c.fencedInstances tr := by
    intro tr
    rw [fencedInstances_unfenceAll]
    split
    · exact .inl rfl
    · exact .inr rfl
  rcases restoreDump_cases c cfg cl instanceNames execErr dump with
    ⟨-, h⟩ | ⟨-, -, h⟩ | ⟨-, -, -, h⟩ | ⟨-, -, -, h⟩
  · exact .inl (h ▸ hread)
  · exact (hFcases _ (congrArg _ h)).imp id .inl
  · rw [show r.1 = _ from h]
    rcases hU (fenceReplicas c _ _).1 with hu | hu
    · exact .inr (.inr hu)
    · exact (hFcases _ hu).imp id .inl
  · rw [show r.1 = _ from h]
    split
    · exact (hFcases _ rfl).imp id .inl
    · rw [fencedInstances_deleteReplicas]
      rcases hU (fenceReplicas c _ _).1 with hu | hu
      · exact .inr (.inr hu)
      · exact (hFcases _ hu).imp id .inl

/-- **A restore clears every fence.**  For every cluster, whatever its annotation listed before
the run: a restore that reads the primary running and ready, whose patches are accepted, and
that either has a replica to fence or whose stream failed, leaves no instance fenced, and so
lifts every fence a failed heal left in place. -/
theorem restoreDump_clears_fences (c : ClusterApi) (cfg : Config) (cl : Cluster)
    (instanceNames : List String) (execErr : Option String) (dump : DumpRequest → Option String)
    (hget : c.err [] (.getPod cl.currentPrimary) = none)
    (hready : (c.pod [] cl.currentPrimary).runningReady = true)
    (hpatch : ∀ calls v, c.err calls (.patchFence v) = none)
    (hrun : replicaNames cl.currentPrimary instanceNames ≠ [] ∨ execErr ≠ none ∨
      dump (dumpRequest "cnpg" dumpFilename cfg) ≠ none) :
    parseFencedInstances (c.fencedInstances (restoreDump c cfg cl instanceNames execErr dump).1) = [] := by
  have hF : (fenceReplicas c (replicaNames cl.currentPrimary instanceNames)
      [(.getPod cl.currentPrimary, none)]).2 = none := by
    unfold fenceReplicas
    split
    · rfl
    · exact hpatch _ _
  have hU : ∀ tr, c.fencedInstances (unfenceAll c tr) = some "[]" := fun tr => by
    rw [fencedInstances_unfenceAll, if_pos (hpatch _ _)]
  rcases restoreDump_cases c cfg cl instanceNames execErr dump with
    ⟨hr, -⟩ | ⟨-, hf, -⟩ | ⟨-, -, -, h⟩ | ⟨-, -, ⟨he, hd⟩, h⟩
  · exact absurd ⟨hget, hready⟩ hr
  · exact absurd hF hf
  · rw [h, hU]
    rfl
  · have hrep : replicaNames cl.currentPrimary instanceNames ≠ [] := by
      simpa [he, hd] using hrun
    rw [h, if_neg hrep, fencedInstances_deleteReplicas, hU]
    rfl

/-- Three instances with `c-1` primary, an annotation that still lists `c-3` after a failed heal,
and an API server that accepts every call. -/
def healLeftCluster : ClusterApi where
  fence := some "[\"c-3\"]"
  err := fun _ _ => none
  pod := fun _ _ => ⟨"Running", some true⟩

/-- The restore of `latest` on `healLeftCluster` succeeds and leaves `c-3` unfenced. -/
theorem restoreDump_clears_fences_healLeft :
    let cl : Cluster :=
      { currentPrimary := "c-1", instances := 3, readyInstances := 3, phase := "Cluster in healthy state" }
    let r := restoreDump healLeftCluster { clusterName := "c", ns := "db" } cl ["c-1", "c-2", "c-3"]
      none (fun _ => none)
    "c-3" ∈ parseFencedInstances healLeftCluster.fence ∧ r.2 = .ok "latest" ∧
      parseFencedInstances (healLeftCluster.fencedInstances r.1) = [] :=
  ⟨by decide, rfl, restoreDump_clears_fences _ _ _ _ _ _ rfl rfl (fun _ _ => rfl) (.inl (by decide))⟩

/-- A fence a failed heal left is not kept: the restore of `latest` on `healLeftCluster` returns
with `c-3`, fenced when it began, no longer fenced. -/
theorem restoreDump_drops_fence_healLeft :
    let cl : Cluster :=
      { currentPrimary := "c-1", instances := 3, readyInstances := 3, phase := "Cluster in healthy state" }
    let r := restoreDump healLeftCluster { clusterName := "c", ns := "db" } cl ["c-1", "c-2", "c-3"]
      none (fun _ => none)
    "c-3" ∈ parseFencedInstances healLeftCluster.fence ∧ r.2 = .ok "latest" ∧
      "c-3" ∉ parseFencedInstances (healLeftCluster.fencedInstances r.1) :=
  ⟨by decide, rfl, by decide⟩

end Cnpg
end Hasteward
