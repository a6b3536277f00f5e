import Hasteward.Cnpg.Fence
import Hasteward.K8s.Api
import Hasteward.Repair.Basic

/-!
# CNPG's `healInstance`, call by call

`healInstance` rebuilds a replica from the primary: it fences the target (CNPG stops managing
it), creates a heal pod on the target's claim and deletes the target until the heal pod holds
the claim, waits for the heal pod's `pg_basebackup`, deletes the heal pod, unfences the target
and waits for it to come back.  Every call goes to the API server, and the model makes each of
them, in order, against a `ClusterApi` whose answers are arbitrary: `healInstance` returns the run
(`K8s.Run`) and the error.

The fence lives in the cluster's annotation.  One worker drives a cluster at a time, so the
annotation is the value before the run with every patch that succeeded applied in turn
(`ClusterApi.fencedInstances`).  Every loop of the heal only reads pods and deletes the target, so the
annotation changes at the fence and at the unfence only (`acquireLoop_extends`,
`completeLoop_extends`, `readyLoop_extends`).

* `healInstance_exit`: a heal pod that was created is deleted before `healInstance` returns; an
  error after the fence leaves the target fenced and issues no unfence; a `nil` return has
  issued the unfence.
* `healInstance_exit_refusedUnfence`: `nil` is returned whatever the unfence answered, so when
  the API server refuses the unfence patch the heal reports success and the target stays fenced.
-/

set_option autoImplicit false

namespace Hasteward
namespace Cnpg

open K8s

/-! ## The API server -/

/-- A call `healInstance` and `restoreDump` make to the API server. -/
inductive ApiCall
  /-- `Dynamic.Resource(CNPGClusterGVR).Get` of the cluster. -/
  | getCluster
  /-- A merge patch of `cnpg.io/fencedInstances` to a value, or (`none`) to `null`. -/
  | patchFence (value : Option String)
  /-- `Pods(ns).Create` of a pod mounting a claim. -/
  | createPod (name pvc : String)
  /-- `Pods(ns).Get`. -/
  | getPod (name : String)
  /-- `Pods(ns).Delete` with a grace period of zero. -/
  | deletePod (name : String)
  /-- `Pods(ns).GetLogs(name).Stream`. -/
  | getLogs (name : String)
  deriving DecidableEq, Repr

/-- The calls that change the fence. -/
def ApiCall.isPatch : ApiCall → Bool
  | .patchFence _ => true
  | _ => false

/-- The CNPG cluster as the API server answers the heal and the restore. -/
structure ClusterApi where
  /-- `cnpg.io/fencedInstances` before the run, `none` when it is absent. -/
  fence : Option String
  /-- The error of each call, given the calls made before it. -/
  err : List ApiCall → ApiCall → Option String
  /-- The status a `Get` of a pod reads when it succeeds, given the calls made before it. -/
  pod : List ApiCall → String → PodStatus

/-- A patch that succeeded sets the annotation; every other call leaves it. -/
def applyPatch (ann : Option String) : ApiCall × Option String → Option String
  | (.patchFence v, none) => v
  | _ => ann

/-- The annotation after a run. -/
def ClusterApi.fencedInstances (c : ClusterApi) (tr : Run ApiCall) : Option String :=
  tr.foldl applyPatch c.fence

theorem ClusterApi.fencedInstances_append (c : ClusterApi) (tr tr' : Run ApiCall) :
    c.fencedInstances (tr ++ tr') = tr'.foldl applyPatch (c.fencedInstances tr) :=
  List.foldl_append _ _ _ _

/-- Calls that are not patches leave the annotation as it is. -/
theorem foldl_applyPatch_of_not_patch (ann : Option String) :
    ∀ more : Run ApiCall, (∀ e ∈ more, e.1.isPatch = false) → more.foldl applyPatch ann = ann
  | [], _ => rfl
  | (a, r) :: more, h => by
    have ha : applyPatch ann (a, r) = ann := by
      have he : a.isPatch = false := h _ (List.mem_cons_self _ _)
      cases a <;> first | rfl | cases he
    rw [List.foldl_cons, ha]
    exact foldl_applyPatch_of_not_patch ann more fun e he => h e (List.mem_cons_of_mem _ he)

/-- `Get` of the cluster: the error, or the annotation. -/
def ClusterApi.getCluster (c : ClusterApi) (tr : Run ApiCall) :
    Run ApiCall × Except String (Option String) :=
  let r := tr.call c.err .getCluster
  (r.1, match r.2 with
    | some e => .error e
    | none => .ok (c.fencedInstances tr))

/-- `Get` of a pod: the error, or its status. -/
def ClusterApi.getPod (c : ClusterApi) (tr : Run ApiCall) (name : String) :
    Run ApiCall × Except String PodStatus :=
  let r := tr.call c.err (.getPod name)
  (r.1, match r.2 with
    | some e => .error e
    | none => .ok (c.pod tr.calls name))

@[simp] theorem ClusterApi.getCluster_fst (c : ClusterApi) (tr : Run ApiCall) :
    (c.getCluster tr).1 = tr ++ [(.getCluster, c.err tr.calls .getCluster)] := rfl

@[simp] theorem ClusterApi.getPod_fst (c : ClusterApi) (tr : Run ApiCall) (name : String) :
    (c.getPod tr name).1 = tr ++ [(.getPod name, c.err tr.calls (.getPod name))] := rfl

/-! ## Fencing -/

/-- `fenceInstance(ctx, pod)`: read the fence list and patch the pod in, unless it is there. -/
def fenceInstance (c : ClusterApi) (pod : String) (tr : Run ApiCall) : Run ApiCall × Option String :=
  match c.getCluster tr with
  | (tr, .error e) => (tr, some e)
  | (tr, .ok ann) =>
    match fencePatch ann pod with
    | none => (tr, none)
    | some v => tr.call c.err (.patchFence v)

/-- `unfenceInstance(ctx, pod)`: read the fence list and patch the pod out. -/
def unfenceInstance (c : ClusterApi) (pod : String) (tr : Run ApiCall) :
    Run ApiCall × Option String :=
  match c.getCluster tr with
  | (tr, .error e) => (tr, some e)
  | (tr, .ok ann) => tr.call c.err (.patchFence (unfencePatch ann pod))

/-- What `fenceInstance` does: a read that fails; a read that finds the pod fenced already; or a
read and the patch that fences it. -/
theorem fenceInstance_spec (c : ClusterApi) (pod : String) (tr : Run ApiCall) :
    (∃ e, c.err tr.calls .getCluster = some e ∧
      fenceInstance c pod tr = (tr ++ [(.getCluster, some e)], some e)) ∨
    (c.err tr.calls .getCluster = none ∧ fencePatch (c.fencedInstances tr) pod = none ∧
      fenceInstance c pod tr = (tr ++ [(.getCluster, none)], none)) ∨
    ∃ v, c.err tr.calls .getCluster = none ∧ fencePatch (c.fencedInstances tr) pod = some v ∧
      fenceInstance c pod tr = (tr ++ [(ApiCall.getCluster, none)]).call c.err (.patchFence v) := by
  unfold fenceInstance ClusterApi.getCluster
  cases h : c.err tr.calls .getCluster with
  | some e => exact .inl ⟨e, rfl, by simp only [Run.call, h]⟩
  | none =>
    cases hp : fencePatch (c.fencedInstances tr) pod with
    | none => exact .inr (.inl ⟨rfl, rfl, by simp only [Run.call, h, hp]⟩)
    | some v => exact .inr (.inr ⟨v, rfl, rfl, by simp only [Run.call, h, hp]⟩)

/-- After a `fenceInstance` that returned `nil`, the annotation lists the pod. -/
theorem fenceInstance_fences {c : ClusterApi} {pod : String} {tr : Run ApiCall}
    (hL : ∀ s ∈ parseFencedInstances (c.fencedInstances tr), PodName s) (hp : PodName pod)
    (h : (fenceInstance c pod tr).2 = none) :
    pod ∈ parseFencedInstances (c.fencedInstances (fenceInstance c pod tr).1) := by
  have hmem := parseFencedInstances_fenced hL hp
  rcases fenceInstance_spec c pod tr with ⟨e, -, heq⟩ | ⟨-, hnone, heq⟩ | ⟨v, -, hv, heq⟩
  · simp [heq] at h
  · rw [heq, ClusterApi.fencedInstances_append]
    simp only [List.foldl_cons, List.foldl_nil, applyPatch]
    rw [fenced, hnone, Option.getD_none] at hmem
    split_ifs at hmem with hin
    · exact hin
    · exact hmem ▸ List.mem_append_right _ (List.mem_singleton_self _)
  · rw [heq] at h ⊢
    simp only [Run.call_snd] at h
    rw [Run.call_fst, ClusterApi.fencedInstances_append, ClusterApi.fencedInstances_append]
    simp only [List.foldl_cons, List.foldl_nil, applyPatch, h]
    rw [fenced, hv, Option.getD_some] at hmem
    rw [hmem]
    split_ifs with hin
    · exact hin
    · exact List.mem_append_right _ (List.mem_singleton_self _)

/-- Calls that are not patches leave the annotation, and the patches of the run, as they are. -/
theorem fencedInstances_of_extends {p : ApiCall → Prop} (hp : ∀ a, p a → a.isPatch = false)
    {tr tr' : Run ApiCall} (h : tr.Extends p tr') (c : ClusterApi) :
    c.fencedInstances tr' = c.fencedInstances tr ∧
      tr'.calls.filter ApiCall.isPatch = tr.calls.filter ApiCall.isPatch := by
  obtain ⟨more, rfl, hm⟩ := h
  refine ⟨by rw [ClusterApi.fencedInstances_append,
    foldl_applyPatch_of_not_patch _ more fun e he => hp _ (hm e he)], ?_⟩
  have hnil : more.calls.filter ApiCall.isPatch = [] := List.filter_eq_nil_iff.2 fun a ha => by
    obtain ⟨e, he, rfl⟩ := List.mem_map.1 ha
    simp [hp _ (hm e he)]
  rw [Run.calls_append, List.filter_append, hnil, List.append_nil]

/-- The fence list keeps holding pod names through a `fenceInstance` of a pod. -/
theorem fenceInstance_podNames {c : ClusterApi} {pod : String} {tr : Run ApiCall}
    (hL : ∀ s ∈ parseFencedInstances (c.fencedInstances tr), PodName s) (hp : PodName pod) :
    ∀ s ∈ parseFencedInstances (c.fencedInstances (fenceInstance c pod tr).1), PodName s := by
  have hfenced : ∀ s ∈ parseFencedInstances (fenced (c.fencedInstances tr) pod), PodName s := by
    rw [parseFencedInstances_fenced hL hp]
    split_ifs
    · exact hL
    · intro s hs
      rcases List.mem_append.1 hs with hs | hs
      · exact hL s hs
      · rwa [List.mem_singleton.1 hs]
  rcases fenceInstance_spec c pod tr with ⟨e, -, heq⟩ | ⟨-, -, heq⟩ | ⟨v, -, hv, heq⟩
  · rw [heq, ClusterApi.fencedInstances_append]
    exact hL
  · rw [heq, ClusterApi.fencedInstances_append]
    exact hL
  · rw [fenced, hv, Option.getD_some] at hfenced
    rw [heq, Run.call_fst, ClusterApi.fencedInstances_append, ClusterApi.fencedInstances_append]
    cases c.err (tr ++ [(ApiCall.getCluster, none)]).calls (.patchFence v) with
    | none => exact hfenced
    | some e => exact hL

/-- What `unfenceInstance` does: a read that fails, or a read and the patch. -/
theorem unfenceInstance_spec (c : ClusterApi) (pod : String) (tr : Run ApiCall) :
    (∃ e, unfenceInstance c pod tr = (tr ++ [(.getCluster, some e)], some e)) ∨
    (c.err tr.calls .getCluster = none ∧ unfenceInstance c pod tr =
      (tr ++ [(ApiCall.getCluster, none)]).call c.err (.patchFence (unfencePatch (c.fencedInstances tr) pod))) := by
  unfold unfenceInstance ClusterApi.getCluster
  cases h : c.err tr.calls .getCluster with
  | some e => exact .inl ⟨e, by simp only [Run.call, h]⟩
  | none => exact .inr ⟨rfl, by simp only [Run.call, h]⟩

/-- An `unfenceInstance` that returned `nil` has patched the pod out of the fence list. -/
theorem unfenceInstance_unfences {c : ClusterApi} {pod : String} {tr : Run ApiCall}
    (hL : ∀ s ∈ parseFencedInstances (c.fencedInstances tr), PodName s)
    (h : (unfenceInstance c pod tr).2 = none) :
    parseFencedInstances (c.fencedInstances (unfenceInstance c pod tr).1) =
      (parseFencedInstances (c.fencedInstances tr)).filter (· != pod) := by
  rcases unfenceInstance_spec c pod tr with ⟨e, heq⟩ | ⟨-, heq⟩
  · simp [heq] at h
  · rw [heq] at h ⊢
    simp only [Run.call_snd] at h
    simp only [Run.call_fst, ClusterApi.fencedInstances_append, List.foldl_cons, List.foldl_nil,
      applyPatch, h]
    exact parseFencedInstances_unfencePatch hL

/-- An `unfenceInstance` that failed, at the read or at the patch, has left the annotation as it
was. -/
theorem unfenceInstance_refused {c : ClusterApi} {pod : String} {tr : Run ApiCall}
    (h : (unfenceInstance c pod tr).2 ≠ none) :
    c.fencedInstances (unfenceInstance c pod tr).1 = c.fencedInstances tr := by
  rcases unfenceInstance_spec c pod tr with ⟨e, heq⟩ | ⟨-, heq⟩
  · rw [heq, ClusterApi.fencedInstances_append]
    rfl
  · rw [heq] at h ⊢
    obtain ⟨e, he⟩ := Option.ne_none_iff_exists'.1 h
    simp only [Run.call_snd] at he
    simp only [Run.call_fst, ClusterApi.fencedInstances_append, List.foldl_cons, List.foldl_nil,
      applyPatch, he]

/-! ## `healInstance` -/

/-- How a wait on the heal pod ends. -/
inductive Wait
  | done
  | failed
  | timedOut
  deriving DecidableEq, Repr

/-- Step 3, with `n` turns left: read the heal pod, as `Pending` when the read fails; it holds
the claim once `Running` or `Succeeded`; `Failed` ends the heal; otherwise delete the target and
go round again. -/
def acquireLoop (c : ClusterApi) (healPod target : String) : Nat → Run ApiCall → Run ApiCall × Wait
  | 0, tr => (tr, .timedOut)
  | n + 1, tr =>
    let r := c.getPod tr healPod
    let phase := match r.2 with
      | .ok p => p.phase
      | .error _ => "Pending"
    if phase = "Running" ∨ phase = "Succeeded" then (r.1, .done)
    else if phase = "Failed" then (r.1, .failed)
    else acquireLoop c healPod target n (r.1.call c.err (.deletePod target)).1

/-- Step 4, with `n` turns left: a read that fails goes round again; `Succeeded` ends the wait
and `Failed` the heal. -/
def completeLoop (c : ClusterApi) (healPod : String) : Nat → Run ApiCall → Run ApiCall × Wait
  | 0, tr => (tr, .timedOut)
  | n + 1, tr =>
    let r := c.getPod tr healPod
    match r.2 with
    | .error _ => completeLoop c healPod n r.1
    | .ok p =>
      if p.phase = "Succeeded" then (r.1, .done)
      else if p.phase = "Failed" then (r.1, .failed)
      else completeLoop c healPod n r.1

/-- The wait for the target to come back, with `n` reads left: stop at one that finds it running
and ready. -/
def readyLoop (c : ClusterApi) (target : String) : Nat → Run ApiCall → Run ApiCall
  | 0, tr => tr
  | n + 1, tr =>
    let r := c.getPod tr target
    match r.2 with
    | .ok p => if p.runningReady then r.1 else readyLoop c target n r.1
    | .error _ => readyLoop c target n r.1

/-- `fmt.Sprintf("%s-heal-%s-%d", clusterName, instanceSuffix, time.Now().Unix())`, the suffix
being the last `-`-separated part of the target's name. -/
def healPodName (clusterName targetPod : String) (now : Int) : String :=
  clusterName ++ "-heal-" ++ (targetPod.splitOn "-").getLastD "" ++ "-" ++ toString now

/-- `logHealPodOutput` and the deletion of the heal pod, with which every heal that created it
ends: `cleanup` on an error, step 5 on success. -/
def dropHealPod (c : ClusterApi) (healPod : String) (tr : Run ApiCall) : Run ApiCall :=
  ((tr.call c.err (.getLogs healPod)).1.call c.err (.deletePod healPod)).1

/-- A heal that fails once the heal pod exists: `cleanup` deletes the heal pod and only warns
about the fence, which it leaves in place. -/
def failHeal (c : ClusterApi) (healPod : String) (tr : Run ApiCall) (e : String) :
    Run ApiCall × Option String :=
  (dropHealPod c healPod tr, some e)

/-- Step 5 on, once the heal pod has succeeded: its logs, its deletion, the unfence (whose error
is only logged), the deletion of the target, and the wait for the target. -/
def finishHeal (c : ClusterApi) (healPod target : String) (tr : Run ApiCall) : Run ApiCall :=
  let tr := ((unfenceInstance c target (dropHealPod c healPod tr)).1.call c.err (.deletePod target)).1
  readyLoop c target 30 tr

/-- `healInstance(ctx, targetPod, targetPVC, hcfg)` at Unix time `now`. -/
def healInstance (c : ClusterApi) (cfg : Config) (targetPod targetPVC : String) (now : Int) :
    Run ApiCall × Option String :=
  let healPod := healPodName cfg.clusterName targetPod now
  match fenceInstance c targetPod [] with
  | (tr, some e) => (tr, some ("failed to fence " ++ targetPod ++ ": " ++ e))
  | (tr, none) =>
    match tr.call c.err (.createPod healPod targetPVC) with
    | (tr, some e) => (tr, some ("failed to create heal pod: " ++ e))
    | (tr, none) =>
      let deleteTimeout := if cfg.deleteTimeout ≤ 0 then 300 else cfg.deleteTimeout
      match acquireLoop c healPod targetPod deleteTimeout.toNat tr with
      | (tr, .failed) => failHeal c healPod tr "heal pod failed before acquiring PVC"
      | (tr, .timedOut) => failHeal c healPod tr
          ("timeout: heal pod never acquired PVC after " ++ toString deleteTimeout ++ "s")
      | (tr, .done) =>
        let healTimeout := if cfg.healTimeout ≤ 0 then 600 else cfg.healTimeout
        match completeLoop c healPod (healTimeout / 10).toNat tr with
        | (tr, .failed) => failHeal c healPod tr ("heal pod FAILED for " ++ targetPod)
        | (tr, .timedOut) => failHeal c healPod tr
            ("heal pod timed out after " ++ toString healTimeout ++ "s for " ++ targetPod)
        | (tr, .done) => (finishHeal c healPod targetPod tr, none)

/-! ## What a run of `healInstance` is -/

theorem acquireLoop_extends (c : ClusterApi) (healPod target : String) : ∀ (n : Nat) (tr : Run ApiCall),
    tr.Extends (fun a => a = .getPod healPod ∨ a = .deletePod target)
      (acquireLoop c healPod target n tr).1
  | 0, tr => .refl _ _
  | n + 1, tr => by
    have hget : tr.Extends (fun a => a = .getPod healPod ∨ a = .deletePod target)
        (c.getPod tr healPod).1 := Run.Extends.call c.err tr (.inl rfl)
    simp only [acquireLoop]
    split_ifs
    · exact hget
    · exact hget
    · exact (hget.trans (Run.Extends.call c.err _ (.inr rfl))).trans
        (acquireLoop_extends c healPod target n _)

theorem completeLoop_extends (c : ClusterApi) (healPod : String) : ∀ (n : Nat) (tr : Run ApiCall),
    tr.Extends (· = .getPod healPod) (completeLoop c healPod n tr).1
  | 0, tr => .refl _ _
  | n + 1, tr => by
    have hget : tr.Extends (· = .getPod healPod) (c.getPod tr healPod).1 :=
      Run.Extends.call c.err tr rfl
    simp only [completeLoop]
    split
    · exact hget.trans (completeLoop_extends c healPod n _)
    · split_ifs
      · exact hget
      · exact hget
      · exact hget.trans (completeLoop_extends c healPod n _)

theorem readyLoop_extends (c : ClusterApi) (target : String) : ∀ (n : Nat) (tr : Run ApiCall),
    tr.Extends (· = .getPod target) (readyLoop c target n tr)
  | 0, tr => .refl _ _
  | n + 1, tr => by
    have hget : tr.Extends (· = .getPod target) (c.getPod tr target).1 :=
      Run.Extends.call c.err tr rfl
    simp only [readyLoop]
    split
    · split_ifs
      · exact hget
      · exact hget.trans (readyLoop_extends c target n _)
    · exact hget.trans (readyLoop_extends c target n _)

/-- The calls of the loops between the create and the end of the heal pod's wait. -/
def WaitCall (healPod target : String) (a : ApiCall) : Prop := a = .getPod healPod ∨ a = .deletePod target

/-- **The runs of `healInstance`.**  The fence's run, and then: nothing, when the fence failed;
the create, when it failed; or the create, the loops' reads and deletions, and either
`failHeal`, with an error, or `finishHeal`, with `nil`. -/
theorem healInstance_cases (c : ClusterApi) (cfg : Config) (targetPod targetPVC : String) (now : Int) :
    let healPod := healPodName cfg.clusterName targetPod now
    let F := fenceInstance c targetPod []
    let created := F.1 ++ [(ApiCall.createPod healPod targetPVC, none)]
    (∃ e, F.2 = some e ∧
      healInstance c cfg targetPod targetPVC now = (F.1, some ("failed to fence " ++ targetPod ++ ": " ++ e))) ∨
    (F.2 = none ∧ ∃ e, healInstance c cfg targetPod targetPVC now =
      (F.1 ++ [(.createPod healPod targetPVC, some e)], some ("failed to create heal pod: " ++ e))) ∨
    (F.2 = none ∧ ∃ tr e, created.Extends (WaitCall healPod targetPod) tr ∧
      healInstance c cfg targetPod targetPVC now = failHeal c healPod tr e) ∨
    (F.2 = none ∧ ∃ tr, created.Extends (WaitCall healPod targetPod) tr ∧
      healInstance c cfg targetPod targetPVC now = (finishHeal c healPod targetPod tr, none)) := by
  intro healPod
  have hA : ∀ (n : Nat) (tr tr' : Run ApiCall) (w : Wait),
      acquireLoop c healPod targetPod n tr = (tr', w) → tr.Extends (WaitCall healPod targetPod) tr' :=
    fun n tr _ _ h => by simpa only [h] using acquireLoop_extends c healPod targetPod n tr
  have hC : ∀ (n : Nat) (tr tr' : Run ApiCall) (w : Wait),
      completeLoop c healPod n tr = (tr', w) → tr.Extends (WaitCall healPod targetPod) tr' :=
    fun n tr _ _ h => by
      simpa only [h] using (completeLoop_extends c healPod n tr).mono fun a h => Or.inl h
  dsimp only
  unfold healInstance
  rcases hF : fenceInstance c targetPod [] with ⟨trF, _ | e⟩
  · cases hcr : c.err trF.calls (.createPod healPod targetPVC) with
    | some e => exact .inr (.inl ⟨rfl, e, by simp [Run.call, hcr]⟩)
    | none =>
      simp only [Run.call, hcr]
      refine .inr (.inr ?_)
      split
      · next tr hacq => exact .inl ⟨trivial, tr, _, hA _ _ _ _ hacq, rfl⟩
      · next tr hacq => exact .inl ⟨trivial, tr, _, hA _ _ _ _ hacq, rfl⟩
      · next tr hacq =>
        split
        · next tr' hc => exact .inl ⟨trivial, tr', _, (hA _ _ _ _ hacq).trans (hC _ _ _ _ hc), rfl⟩
        · next tr' hc => exact .inl ⟨trivial, tr', _, (hA _ _ _ _ hacq).trans (hC _ _ _ _ hc), rfl⟩
        · next tr' hc => exact .inr ⟨trivial, tr', (hA _ _ _ _ hacq).trans (hC _ _ _ _ hc), rfl⟩
  · exact .inl ⟨e, rfl, rfl⟩

/-- The fence's calls: the read and the patch. -/
theorem fenceInstance_extends (c : ClusterApi) (pod : String) (tr : Run ApiCall) :
    tr.Extends (fun a => a = .getCluster ∨ a.isPatch = true) (fenceInstance c pod tr).1 := by
  have hget := Run.Extends.call (p := fun a => a = .getCluster ∨ a.isPatch = true) c.err tr
    (c := .getCluster) (.inl rfl)
  rcases fenceInstance_spec c pod tr with ⟨e, he, heq⟩ | ⟨he, -, heq⟩ | ⟨v, he, -, heq⟩
  · rw [heq]; simpa [Run.call, he] using hget
  · rw [heq]; simpa [Run.call, he] using hget
  · rw [heq]
    exact (by simpa [Run.call, he] using hget : tr.Extends _ (tr ++ [(.getCluster, none)])).trans
      (Run.Extends.call c.err _ (.inr rfl))

/-- The unfence's calls: the read and the patch. -/
theorem unfenceInstance_extends (c : ClusterApi) (pod : String) (tr : Run ApiCall) :
    tr.Extends (fun a => a = .getCluster ∨ a.isPatch = true) (unfenceInstance c pod tr).1 := by
  rcases unfenceInstance_spec c pod tr with ⟨e, heq⟩ | ⟨-, heq⟩
  · rw [heq]
    exact ⟨_, rfl, by simp⟩
  · rw [heq]
    exact Run.Extends.trans (⟨_, rfl, by simp⟩ : tr.Extends (fun a => a = .getCluster ∨
      a.isPatch = true) (tr ++ [(.getCluster, none)])) (Run.Extends.call c.err _ (.inr rfl))

theorem dropHealPod_extends (c : ClusterApi) (healPod : String) (tr : Run ApiCall) :
    tr.Extends (fun a => a = .getLogs healPod ∨ a = .deletePod healPod) (dropHealPod c healPod tr) :=
  (Run.Extends.call c.err tr (.inl rfl)).trans (Run.Extends.call c.err _ (.inr rfl))

/-- The logs and the deletion change neither the fence nor the patches of the run. -/
theorem dropHealPod_fencedInstances (c : ClusterApi) (healPod : String) (tr : Run ApiCall) :
    c.fencedInstances (dropHealPod c healPod tr) = c.fencedInstances tr ∧
      (dropHealPod c healPod tr).calls.filter ApiCall.isPatch = tr.calls.filter ApiCall.isPatch :=
  fencedInstances_of_extends (fun _ h => by rcases h with rfl | rfl <;> rfl) (dropHealPod_extends c healPod tr) c

theorem dropHealPod_deletes (c : ClusterApi) (healPod : String) (tr : Run ApiCall) :
    ∃ rest, dropHealPod c healPod tr = tr ++ rest ∧ .deletePod healPod ∈ Run.calls rest :=
  ⟨[(.getLogs healPod, c.err tr.calls (.getLogs healPod)),
    (.deletePod healPod, c.err (tr.calls ++ [.getLogs healPod]) (.deletePod healPod))],
    by simp [dropHealPod], by simp⟩

/-- The end of a heal that succeeded: the logs and the deletion of the heal pod, the unfence,
and then only deletions and reads of the target. -/
theorem finishHeal_spec (c : ClusterApi) (healPod target : String) (tr : Run ApiCall) :
    (unfenceInstance c target (dropHealPod c healPod tr)).1.Extends
      (fun a => a = .deletePod target ∨ a = .getPod target) (finishHeal c healPod target tr) :=
  (Run.Extends.call c.err _ (.inl rfl)).trans
    ((readyLoop_extends c target 30 _).mono fun _ h => .inr h)

theorem finishHeal_deletes (c : ClusterApi) (healPod target : String) (tr : Run ApiCall) :
    ∃ rest, finishHeal c healPod target tr = tr ++ rest ∧ .deletePod healPod ∈ Run.calls rest := by
  obtain ⟨rest, hrest, hdel⟩ := dropHealPod_deletes c healPod tr
  obtain ⟨u, hu, -⟩ := unfenceInstance_extends c target (dropHealPod c healPod tr)
  obtain ⟨more, hmore, -⟩ := finishHeal_spec c healPod target tr
  exact ⟨rest ++ u ++ more, by rw [hmore, hu, hrest]; simp, by simp [hdel]⟩

theorem waitCall_not_patch {healPod target : String} (a : ApiCall) (h : WaitCall healPod target a) :
    a.isPatch = false := by
  rcases h with rfl | rfl <;> rfl

/-- The end of a heal that succeeded, on a cluster whose fence list holds pod names and the
target: the unfence is the last patch, so the target ends unfenced exactly when it succeeded. -/
theorem finishHeal_unfence {c : ClusterApi} {healPod target : String} {tr : Run ApiCall}
    (hL : ∀ s ∈ parseFencedInstances (c.fencedInstances tr), PodName s)
    (hin : target ∈ parseFencedInstances (c.fencedInstances tr)) :
    ∃ more, finishHeal c healPod target tr =
        (unfenceInstance c target (dropHealPod c healPod tr)).1 ++ more ∧
      (∀ e ∈ more, e.1.isPatch = false) ∧
      (target ∉ parseFencedInstances (c.fencedInstances (finishHeal c healPod target tr)) ↔
        (unfenceInstance c target (dropHealPod c healPod tr)).2 = none) := by
  have hnot : ∀ a : ApiCall, (a = .deletePod target ∨ a = .getPod target) → a.isPatch = false :=
    fun _ h => by rcases h with rfl | rfl <;> rfl
  have hT := (dropHealPod_fencedInstances c healPod tr).1
  obtain ⟨more, hmore, hm⟩ := finishHeal_spec c healPod target tr
  refine ⟨more, hmore, fun e he => hnot _ (hm e he), ?_⟩
  rw [(fencedInstances_of_extends hnot ⟨more, hmore, hm⟩ c).1]
  constructor
  · intro hout
    by_contra hu
    rw [unfenceInstance_refused hu, hT] at hout
    exact hout hin
  · intro hu
    rw [unfenceInstance_unfences (hT ▸ hL) hu]
    simp

/-- **The exit state of `healInstance`.**  For every cluster whose fence list holds pod names:
a heal pod whose create succeeded is deleted before `healInstance` returns; an error after a
fence that succeeded issues no patch beyond the fence's and leaves the target fenced; and a
`nil` return has issued the unfence, after which only the target is deleted and read, so the
target is unfenced exactly when that unfence succeeded. -/
theorem healInstance_exit (c : ClusterApi) (cfg : Config) (targetPod targetPVC : String) (now : Int)
    (hL : ∀ s ∈ parseFencedInstances c.fence, PodName s) (hp : PodName targetPod) :
    let healPod := healPodName cfg.clusterName targetPod now
    let F := fenceInstance c targetPod []
    let r := healInstance c cfg targetPod targetPVC now
    ((ApiCall.createPod healPod targetPVC, none) ∈ r.1 →
      ∃ post, r.1 = F.1 ++ (.createPod healPod targetPVC, none) :: post ∧
        .deletePod healPod ∈ Run.calls post) ∧
    (∀ e, r.2 = some e → F.2 = none →
      r.1.calls.filter ApiCall.isPatch = F.1.calls.filter ApiCall.isPatch ∧
        targetPod ∈ parseFencedInstances (c.fencedInstances r.1)) ∧
    (r.2 = none → ∃ T more, r.1 = (unfenceInstance c targetPod T).1 ++ more ∧
      (∀ e ∈ more, e.1.isPatch = false) ∧
      (targetPod ∉ parseFencedInstances (c.fencedInstances r.1) ↔
        (unfenceInstance c targetPod T).2 = none)) := by
  intro healPod F r
  have hfenced : F.2 = none → targetPod ∈ parseFencedInstances (c.fencedInstances F.1) :=
    @fenceInstance_fences c targetPod [] hL hp
  obtain ⟨mF, hF1, hmF⟩ := fenceInstance_extends c targetPod []
  have hnocreate : ∀ x, (ApiCall.createPod healPod targetPVC, x) ∉ F.1 := fun x hx => by
    rw [hF1, List.nil_append] at hx
    simpa [ApiCall.isPatch] using hmF _ hx
  -- the create and the loops change neither the fence nor the patches of the run
  have hwait : ∀ {tr}, (F.1 ++ [(ApiCall.createPod healPod targetPVC, none)]).Extends
      (WaitCall healPod targetPod) tr → c.fencedInstances tr = c.fencedInstances F.1 ∧
        tr.calls.filter ApiCall.isPatch = F.1.calls.filter ApiCall.isPatch := by
    intro tr h
    obtain ⟨h1, h2⟩ := fencedInstances_of_extends waitCall_not_patch h c
    rw [h1, h2, ClusterApi.fencedInstances_append]
    simp [applyPatch, ApiCall.isPatch]
  rcases healInstance_cases c cfg targetPod targetPVC now with
    ⟨e, he, hr⟩ | ⟨he, e, hr⟩ | ⟨he, tr, e, hext, hr⟩ | ⟨he, tr, hext, hr⟩ <;>
    rw [show r = _ from hr]
  · -- the fence failed
    exact ⟨fun h => absurd h (hnocreate _), fun _ _ h => absurd h (by simp [F, he]),
      fun h => absurd h (by simp)⟩
  · -- the create failed
    refine ⟨fun h => ?_, fun _ _ _ => ⟨by simp [ApiCall.isPatch], ?_⟩, fun h => absurd h (by simp)⟩
    · simp [hnocreate] at h
    · simpa [ClusterApi.fencedInstances_append, applyPatch] using hfenced he
  · -- a failure once the heal pod exists: `failHeal`
    obtain ⟨hann, hpat⟩ := hwait hext
    obtain ⟨m, rfl, -⟩ := hext
    obtain ⟨rest, hrest, hdel⟩ := dropHealPod_deletes c healPod
      (F.1 ++ [(.createPod healPod targetPVC, none)] ++ m)
    refine ⟨fun _ => ⟨m ++ rest, by rw [failHeal, hrest]; simp, by simp [hdel]⟩, fun _ _ _ => ?_,
      fun h => absurd h (by simp [failHeal])⟩
    obtain ⟨hann', hpat'⟩ := dropHealPod_fencedInstances c healPod
      (F.1 ++ [(.createPod healPod targetPVC, none)] ++ m)
    rw [failHeal, hann', hpat', hann, hpat]
    exact ⟨rfl, hfenced he⟩
  · -- the heal pod succeeded: `finishHeal`
    obtain ⟨hann, -⟩ := hwait hext
    obtain ⟨m, rfl, -⟩ := hext
    obtain ⟨rest, hrest, hdel⟩ := finishHeal_deletes c healPod targetPod
      (F.1 ++ [(.createPod healPod targetPVC, none)] ++ m)
    obtain ⟨more, hmore, hnp, hiff⟩ := @finishHeal_unfence c healPod targetPod _
      (hann ▸ @fenceInstance_podNames c targetPod [] hL hp) (hann ▸ hfenced he)
    exact ⟨fun _ => ⟨m ++ rest, by rw [hrest]; simp, by simp [hdel]⟩, fun _ h => absurd h (by simp),
      fun _ => ⟨_, more, hmore, hnp, hiff⟩⟩

/-- A cluster whose API server refuses every patch after the first, with `c-1` fenced before the
run: the heal pod has succeeded when it is first read, and the target is running and ready once
the heal pod's logs have been read. -/
def refusingCluster : ClusterApi where
  fence := some "[\"c-1\"]"
  err := fun calls a =>
    if a.isPatch && calls.any ApiCall.isPatch then some "the object has been modified" else none
  pod := fun calls _ =>
    if calls.any (fun a => a matches .getLogs _) then ⟨"Running", some true⟩ else ⟨"Succeeded", none⟩

/-- The heal of `c-2` on `refusingCluster` returns `nil`, and `c-2` is still fenced: the unfence
the run ends with failed. -/
theorem healInstance_exit_refusedUnfence :
    let r := healInstance refusingCluster { clusterName := "c", ns := "db" } "c-2" "c-2" 0
    r.2 = none ∧ "c-2" ∈ parseFencedInstances (refusingCluster.fencedInstances r.1) ∧
      ∃ T more, r.1 = (unfenceInstance refusingCluster "c-2" T).1 ++ more ∧
        (unfenceInstance refusingCluster "c-2" T).2 ≠ none := by
  intro r
  have hr : r.2 = none := by decide
  have hin : "c-2" ∈ parseFencedInstances (refusingCluster.fencedInstances r.1) := by decide
  obtain ⟨-, -, hnil⟩ := healInstance_exit refusingCluster { clusterName := "c", ns := "db" } "c-2"
    "c-2" 0 (by decide) (by decide)
  obtain ⟨T, more, heq, -, hiff⟩ := hnil hr
  exact ⟨hr, hin, T, more, heq, fun hu => hiff.2 hu hin⟩

end Cnpg
end Hasteward
