import Hasteward.K8s.Api
import Hasteward.Galera.Triage
import Hasteward.Repair.Basic

/-!
# Galera's `healNode`, call by call

`healNode` wipes a node's Galera state so that it rejoins by SST.  It suspends the `MariaDB` CR,
so that the operator stops reconciling, and scales the StatefulSet down far enough to release
the node's claims.  It waits for the node's pod to go, then runs a helper pod on the `storage-`
claim, which rewrites `grastate.dat` and moves `galera.cache` aside, and another on the
`galera-` claim when there is one.  Last it scales back up and resumes the CR.  An error after
the suspend runs the closure `rescue`.

As for CNPG, every call goes to an API server whose answers are arbitrary (`Api`), and
`healNode` returns the run (`K8s.Run`) and the error.  The closure's flags `suspended` and
`scaledDown` are set once a call *reported* success, and `rescue` reads them when it runs: it
compensates the steps whose call reported success, not the steps that were attempted.

* `healNode_cases`: the runs of `healNode`, one per exit.
* `healNode_wipes_without_wait`: the wait for the pod to go ends without an error when its reads
  run out, so with every read finding the pod the storage helper is created all the same, and
  with a `deleteTimeout` below 5 no read is made at all.
* `healNode_compensates`: `nil` follows an accepted scale-up and resume; an error from the
  suspend patch returns with no resume, and one from the scale-down runs `rescue` with no scale
  back; every later error runs `rescue`, which skips the scale back only after an accepted
  scale-up.
-/

set_option autoImplicit false

namespace Hasteward
namespace Galera

open K8s

/-! ## The API server -/

/-- A call `healNode` makes to the API server. -/
inductive ApiCall
  /-- `PersistentVolumeClaims(ns).Get`. -/
  | getPVC (name : String)
  /-- A merge patch of the CR's `spec.suspend`. -/
  | patchSuspend (suspend : Bool)
  /-- `StatefulSets(ns).GetScale` of the cluster's StatefulSet. -/
  | getScale
  /-- `StatefulSets(ns).UpdateScale` to a replica count. -/
  | updateScale (replicas : Int)
  /-- `Pods(ns).Get`. -/
  | getPod (name : String)
  /-- `Pods(ns).Create` of a helper pod mounting a claim at a path. -/
  | createPod (name pvc mountPath : String)
  /-- `Pods(ns).GetLogs(name).Stream`. -/
  | getLogs (name : String)
  /-- `Pods(ns).Delete` with a grace period of zero. -/
  | deletePod (name : String)
  /-- `Pods(ns).List` by a label selector. -/
  | listPods (selector : String)
  deriving DecidableEq, Repr

/-- The API server as `healNode` sees it. -/
structure Api where
  /-- The error of each call, given the calls made before it. -/
  err : List ApiCall → ApiCall → Option String
  /-- The status a `Get` of a pod reads when it succeeds, given the calls made before it. -/
  pod : List ApiCall → String → PodStatus
  /-- The names a `List` that succeeds returns, given the calls made before it. -/
  listed : List ApiCall → String → List String

/-- `Get` of a pod: the error, or its status. -/
def Api.getPod (api : Api) (tr : Run ApiCall) (name : String) :
    Run ApiCall × Except String PodStatus :=
  let r := tr.call api.err (.getPod name)
  (r.1, match r.2 with
    | some e => .error e
    | none => .ok (api.pod tr.calls name))

@[simp] theorem Api.getPod_fst (api : Api) (tr : Run ApiCall) (name : String) :
    (api.getPod tr name).1 = tr ++ [(.getPod name, api.err tr.calls (.getPod name))] := rfl

/-! ## The steps -/

/-- `suspendCR(ctx)`: patch `spec.suspend` to `true`. -/
def suspendCR (api : Api) (tr : Run ApiCall) : Run ApiCall × Option String :=
  tr.call api.err (.patchSuspend true)

/-- `resumeCR(ctx)`: patch `spec.suspend` to `false`. -/
def resumeCR (api : Api) (tr : Run ApiCall) : Run ApiCall × Option String :=
  tr.call api.err (.patchSuspend false)

/-- `scaleStatefulSet(ctx, replicas)`: read the scale, then write it with the new count. -/
def scaleStatefulSet (api : Api) (replicas : Int) (tr : Run ApiCall) : Run ApiCall × Option String :=
  match tr.call api.err .getScale with
  | (tr, some e) => (tr, some e)
  | (tr, none) => tr.call api.err (.updateScale replicas)

/-- The wait for the target pod to terminate, with `n` reads left: it stops at the first read
that fails, and otherwise when the reads run out. -/
def waitGone (api : Api) (target : String) : Nat → Run ApiCall → Run ApiCall
  | 0, tr => tr
  | n + 1, tr =>
    match tr.call api.err (.getPod target) with
    | (tr, some _) => tr
    | (tr, none) => waitGone api target n tr

/-- `runHelperPod`'s wait, with `n` reads left: a read that fails goes round again; `Succeeded`
and `Failed` end it. -/
def helperWait (api : Api) (name : String) : Nat → Run ApiCall → Run ApiCall × Option Bool
  | 0, tr => (tr, none)
  | n + 1, tr =>
    let r := api.getPod tr name
    match r.2 with
    | .error _ => helperWait api name n r.1
    | .ok p =>
      if p.phase = "Succeeded" then (r.1, some true)
      else if p.phase = "Failed" then (r.1, some false)
      else helperWait api name n r.1

/-- `runHelperPod(ctx, name, pvcName, mountPath, script)`: create the pod, wait for it, and
delete it, after reading its logs when it ended. -/
def runHelperPod (api : Api) (name pvc mountPath : String) (tr : Run ApiCall) :
    Run ApiCall × Option String :=
  match tr.call api.err (.createPod name pvc mountPath) with
  | (tr, some e) => (tr, some ("failed to create helper pod " ++ name ++ ": " ++ e))
  | (tr, none) =>
    match helperWait api name 30 tr with
    | (tr, some true) => (((tr.call api.err (.getLogs name)).1.call api.err (.deletePod name)).1, none)
    | (tr, some false) => (((tr.call api.err (.getLogs name)).1.call api.err (.deletePod name)).1,
        some ("helper pod " ++ name ++ " failed"))
    | (tr, none) => ((tr.call api.err (.deletePod name)).1, some ("helper pod " ++ name ++ " timed out"))

/-- `deleteRecoveryPods(ctx)`: list the operator's recovery pods and delete each of them. -/
def deleteRecoveryPods (api : Api) (clusterName : String) (tr : Run ApiCall) : Run ApiCall :=
  let selector := "app.kubernetes.io/instance=" ++ clusterName ++ ",k8s.mariadb.com/recovery=true"
  match tr.call api.err (.listPods selector) with
  | (tr', some _) => tr'
  | (tr', none) =>
    (api.listed tr.calls selector).foldl (fun tr p => (tr.call api.err (.deletePod p)).1) tr'

/-- The wait for the target to come back, with `n` reads left: stop at one that finds it running
and ready. -/
def readyLoop (api : Api) (target : String) : Nat → Run ApiCall → Run ApiCall
  | 0, tr => tr
  | n + 1, tr =>
    let r := api.getPod tr target
    match r.2 with
    | .ok p => if p.runningReady then r.1 else readyLoop api target n r.1
    | .error _ => readyLoop api target n r.1

/-- The names `healNode` derives from the target: its two claims, and the two helper pods, named
at the Unix times `storageNow` and `galeraNow` of the two calls of `time.Now()`. -/
structure HealNames where
  storagePVC : String
  galeraPVC : String
  storageHelper : String
  galeraHelper : String

def healNames (clusterName targetPod : String) (instanceNum storageNow galeraNow : Int) : HealNames where
  storagePVC := "storage-" ++ targetPod
  galeraPVC := "galera-" ++ targetPod
  storageHelper := clusterName ++ "-heal-storage-" ++ toString instanceNum ++ "-" ++ toString storageNow
  galeraHelper := clusterName ++ "-heal-galera-" ++ toString instanceNum ++ "-" ++ toString galeraNow

/-- The count the StatefulSet is scaled down to: the target's ordinal when it is the last one,
so that only the target goes, and otherwise `0`. -/
def scaleTarget (replicas instanceNum : Int) : Int :=
  if instanceNum = replicas - 1 then instanceNum else 0

/-- `rescue()`, with the closure's `suspended` and `scaledDown` as they are when it runs: delete
the helper pods, scale back when `scaledDown`, resume when `suspended`; every error is ignored. -/
def rescue (api : Api) (n : HealNames) (hasGaleraPVC : Bool) (originalReplicas : Int)
    (suspended scaledDown : Bool) (tr : Run ApiCall) : Run ApiCall :=
  let tr := (tr.call api.err (.deletePod n.storageHelper)).1
  let tr := if hasGaleraPVC then (tr.call api.err (.deletePod n.galeraHelper)).1 else tr
  let tr := if scaledDown then (scaleStatefulSet api originalReplicas tr).1 else tr
  if suspended then (resumeCR api tr).1 else tr

/-- `healNode(ctx, targetPod, instanceNum)` for the `MariaDB` resource `mdb`. -/
def healNode (api : Api) (cfg : Config) (mdb : MariaDB) (targetPod : String)
    (instanceNum storageNow galeraNow : Int) : Run ApiCall × Option String :=
  let n := healNames cfg.clusterName targetPod instanceNum storageNow galeraNow
  let probe := Run.call api.err [] (.getPVC n.galeraPVC)
  let hasGaleraPVC := probe.2.isNone
  match suspendCR api probe.1 with
  | (tr, some e) => (tr, some ("failed to suspend CR: " ++ e))
  | (tr, none) =>
    match scaleStatefulSet api (scaleTarget mdb.replicas instanceNum) tr with
    | (tr, some e) =>
      (rescue api n hasGaleraPVC mdb.replicas true false tr, some ("failed to scale StatefulSet: " ++ e))
    | (tr, none) =>
      let deleteTimeout := if cfg.deleteTimeout ≤ 0 then 300 else cfg.deleteTimeout
      let tr := waitGone api targetPod (deleteTimeout / 5).toNat tr
      match runHelperPod api n.storageHelper n.storagePVC "/var/lib/mysql" tr with
      | (tr, some e) => (rescue api n hasGaleraPVC mdb.replicas true true tr, some ("storage helper failed: " ++ e))
      | (tr, none) =>
        match (if hasGaleraPVC then runHelperPod api n.galeraHelper n.galeraPVC "/galera" tr
            else (tr, none)) with
        | (tr, some e) =>
          (rescue api n hasGaleraPVC mdb.replicas true true tr, some ("galera config helper failed: " ++ e))
        | (tr, none) =>
          match scaleStatefulSet api mdb.replicas (deleteRecoveryPods api cfg.clusterName tr) with
          | (tr, some e) =>
            (rescue api n hasGaleraPVC mdb.replicas true true tr,
              some ("failed to scale StatefulSet back up: " ++ e))
          | (tr, none) =>
            match resumeCR api tr with
            | (tr, some e) =>
              (rescue api n hasGaleraPVC mdb.replicas true false tr, some ("failed to resume CR: " ++ e))
            | (tr, none) =>
              let healTimeout := if cfg.healTimeout ≤ 0 then 600 else cfg.healTimeout
              (readyLoop api targetPod (healTimeout / 10).toNat tr, none)

/-! ## What each step adds to the run -/

theorem call_grows (api : Api) (tr : Run ApiCall) (a : ApiCall) : tr <+: (tr.call api.err a).1 :=
  List.prefix_append _ _

theorem prefix_of_eq {β : Type} {tr tr' : Run ApiCall} {r : Run ApiCall × β} {x : β}
    (hp : tr <+: r.1) (h : r = (tr', x)) : tr <+: tr' := by
  rwa [h] at hp

theorem prefix_of_call_eq {api : Api} {tr tr' : Run ApiCall} {a : ApiCall} {x : Option String}
    (h : tr.call api.err a = (tr', x)) : tr <+: tr' :=
  prefix_of_eq (call_grows api tr a) h

/-- A call whose answer was `nil` is in the run. -/
theorem mem_call_of_ok {api : Api} {tr tr' : Run ApiCall} {a : ApiCall}
    (h : tr.call api.err a = (tr', none)) : (a, none) ∈ tr' := by
  simp only [Run.call, Prod.mk.injEq] at h
  rw [← h.1, h.2]
  simp

theorem scaleStatefulSet_grows (api : Api) (k : Int) (tr : Run ApiCall) :
    tr <+: (scaleStatefulSet api k tr).1 := by
  unfold scaleStatefulSet
  split
  · next h => exact prefix_of_call_eq h
  · next h => exact (prefix_of_call_eq h).trans (call_grows api _ _)

/-- A scale that reported success has written the count. -/
theorem scaleStatefulSet_ok {api : Api} {k : Int} {tr tr' : Run ApiCall}
    (h : scaleStatefulSet api k tr = (tr', none)) : (ApiCall.updateScale k, none) ∈ tr' := by
  unfold scaleStatefulSet at h
  split at h
  · cases h
  · exact mem_call_of_ok h

theorem waitGone_grows (api : Api) (target : String) :
    ∀ (n : Nat) (tr : Run ApiCall), tr <+: waitGone api target n tr
  | 0, tr => List.prefix_refl tr
  | n + 1, tr => by
    unfold waitGone
    split
    · next h => exact prefix_of_call_eq h
    · next h => exact (prefix_of_call_eq h).trans (waitGone_grows api target n _)

/-- With the pod found at every read, the wait makes all its reads. -/
theorem waitGone_present {api : Api} {target : String} (hpod : ∀ calls, api.err calls (.getPod target) = none) :
    ∀ (n : Nat) (tr : Run ApiCall), waitGone api target n tr = tr ++ List.replicate n (.getPod target, none)
  | 0, tr => (List.append_nil tr).symm
  | n + 1, tr => by
    rw [waitGone, Run.call, hpod]
    simp only
    rw [waitGone_present hpod n, List.replicate_succ, List.append_assoc, List.singleton_append]

theorem helperWait_grows (api : Api) (name : String) :
    ∀ (n : Nat) (tr : Run ApiCall), tr <+: (helperWait api name n tr).1
  | 0, tr => List.prefix_refl tr
  | n + 1, tr => by
    have hget : tr <+: (api.getPod tr name).1 := call_grows api tr _
    simp only [helperWait]
    split
    · exact hget.trans (helperWait_grows api name n _)
    · split_ifs
      · exact hget
      · exact hget
      · exact hget.trans (helperWait_grows api name n _)

/-- A helper pod's run starts with its create. -/
theorem runHelperPod_create (api : Api) (name pvc mountPath : String) (tr : Run ApiCall) :
    ∃ x, tr ++ [(.createPod name pvc mountPath, x)] <+: (runHelperPod api name pvc mountPath tr).1 := by
  refine ⟨api.err tr.calls (.createPod name pvc mountPath), ?_⟩
  show (tr.call api.err _).1 <+: _
  unfold runHelperPod
  split
  · next h => exact prefix_of_eq (List.prefix_refl _) h
  · next tr' h =>
    rw [show (tr.call api.err _).1 = tr' from congrArg Prod.fst h]
    have hw := helperWait_grows api name 30 tr'
    split
    · next h' => exact (prefix_of_eq hw h').trans ((call_grows api _ _).trans (call_grows api _ _))
    · next h' => exact (prefix_of_eq hw h').trans ((call_grows api _ _).trans (call_grows api _ _))
    · next h' => exact (prefix_of_eq hw h').trans (call_grows api _ _)

theorem deleteRecoveryPods_grows (api : Api) (clusterName : String) (tr : Run ApiCall) :
    tr <+: deleteRecoveryPods api clusterName tr := by
  have hdel : ∀ (l : List String) (tr : Run ApiCall),
      tr <+: l.foldl (fun (tr : Run ApiCall) p => (tr.call api.err (.deletePod p)).1) tr := by
    intro l
    induction l with
    | nil => exact List.prefix_refl
    | cons p l ih => exact fun tr => (call_grows api tr _).trans (ih _)
  dsimp only [deleteRecoveryPods]
  split
  · next h => exact prefix_of_call_eq h
  · next h => exact (prefix_of_call_eq h).trans (hdel _ _)

theorem readyLoop_grows (api : Api) (target : String) :
    ∀ (n : Nat) (tr : Run ApiCall), tr <+: readyLoop api target n tr
  | 0, tr => List.prefix_refl tr
  | n + 1, tr => by
    have hget : tr <+: (api.getPod tr target).1 := call_grows api tr _
    simp only [readyLoop]
    split
    · split_ifs
      · exact hget
      · exact hget.trans (readyLoop_grows api target n _)
    · exact hget.trans (readyLoop_grows api target n _)

theorem rescue_grows (api : Api) (n : HealNames) (hasGaleraPVC : Bool) (originalReplicas : Int)
    (suspended scaledDown : Bool) (tr : Run ApiCall) :
    tr <+: rescue api n hasGaleraPVC originalReplicas suspended scaledDown tr := by
  have hif : ∀ (b : Bool) (f : Run ApiCall → Run ApiCall), (∀ t, t <+: f t) →
      ∀ t, t <+: if b then f t else t := fun b f hf t => by
    cases b
    · exact List.prefix_refl t
    · exact hf t
  exact (call_grows api tr _).trans <| (hif _ _ (fun t => call_grows api t _) _).trans <|
    (hif _ _ (fun t => scaleStatefulSet_grows api _ t) _).trans (hif _ _ (fun t => call_grows api t _) _)

theorem runHelperPod_grows (api : Api) (name pvc mountPath : String) (tr : Run ApiCall) :
    tr <+: (runHelperPod api name pvc mountPath tr).1 :=
  let ⟨_, h⟩ := runHelperPod_create api name pvc mountPath tr
  (List.prefix_append _ _).trans h

/-- Step 4, the galera helper when there is a galera claim. -/
theorem galeraStep_grows (api : Api) (hasGaleraPVC : Bool) (name pvc mountPath : String) (tr : Run ApiCall) :
    tr <+: (if hasGaleraPVC = true then runHelperPod api name pvc mountPath tr else (tr, none)).1 := by
  cases hasGaleraPVC
  · exact List.prefix_refl tr
  · exact runHelperPod_grows api name pvc mountPath tr

/-! ## The runs of `healNode` -/

/-- **The runs of `healNode`.**  After the probe of the galera claim: the suspend, which returns
on an error; the scale-down, after which an error runs `rescue` without the scale back; the wait
and the storage helper, from which on every error runs `rescue` with the scale back, unless the
scale-up was accepted; and `nil` once the scale-up and the resume were accepted. -/
theorem healNode_cases (api : Api) (cfg : Config) (mdb : MariaDB) (targetPod : String)
    (instanceNum storageNow galeraNow : Int) :
    let n := healNames cfg.clusterName targetPod instanceNum storageNow galeraNow
    let probe := Run.call api.err [] (.getPVC n.galeraPVC)
    let S := suspendCR api probe.1
    let D := scaleStatefulSet api (scaleTarget mdb.replicas instanceNum) S.1
    let deleteTimeout := if cfg.deleteTimeout ≤ 0 then 300 else cfg.deleteTimeout
    let H := runHelperPod api n.storageHelper n.storagePVC "/var/lib/mysql"
      (waitGone api targetPod (deleteTimeout / 5).toNat D.1)
    let healTimeout := if cfg.healTimeout ≤ 0 then 600 else cfg.healTimeout
    let r := healNode api cfg mdb targetPod instanceNum storageNow galeraNow
    (∃ e, S.2 = some e ∧ r = (S.1, some ("failed to suspend CR: " ++ e))) ∨
    (S.2 = none ∧ ∃ e, D.2 = some e ∧
      r = (rescue api n probe.2.isNone mdb.replicas true false D.1, some ("failed to scale StatefulSet: " ++ e))) ∨
    (S.2 = none ∧ D.2 = none ∧ ∃ tr e d, H.1 <+: tr ∧
      r = (rescue api n probe.2.isNone mdb.replicas true d tr, some e) ∧
      (d = false → (ApiCall.updateScale mdb.replicas, none) ∈ tr)) ∨
    (S.2 = none ∧ D.2 = none ∧ ∃ tr, H.1 <+: tr ∧ (ApiCall.updateScale mdb.replicas, none) ∈ tr ∧
      (ApiCall.patchSuspend false, none) ∈ tr ∧
      r = (readyLoop api targetPod (healTimeout / 10).toNat tr, none)) := by
  dsimp only
  unfold healNode
  dsimp only
  generalize (if cfg.deleteTimeout ≤ 0 then 300 else cfg.deleteTimeout) = dt
  generalize (if cfg.healTimeout ≤ 0 then 600 else cfg.healTimeout) = ht
  split
  · next trS e hS => exact .inl ⟨e, by rw [hS], by rw [hS]⟩
  · next trS hS =>
    simp only [hS]
    refine .inr ?_
    split
    · next trD e hD => exact .inl ⟨trivial, e, by rw [hD], by rw [hD]⟩
    · next trD hD =>
      simp only [hD]
      refine .inr ?_
      split
      · next trH e hH =>
        exact .inl ⟨trivial, trivial, trH, _, true, prefix_of_eq (List.prefix_refl _) hH, rfl, Bool.noConfusion⟩
      · next trH hH =>
        simp only [hH, true_and]
        split
        · next trG e hG =>
          exact .inl ⟨trG, _, true, prefix_of_eq (galeraStep_grows api _ _ _ _ trH) hG, rfl,
            Bool.noConfusion⟩
        · next trG hG =>
          have hGp : trH <+: trG := prefix_of_eq (galeraStep_grows api _ _ _ _ trH) hG
          have hRp : trH <+: deleteRecoveryPods api cfg.clusterName trG :=
            hGp.trans (deleteRecoveryPods_grows api _ trG)
          split
          · next trU e hU =>
            exact .inl ⟨trU, _, true, hRp.trans (prefix_of_eq (scaleStatefulSet_grows api _ _) hU),
              rfl, Bool.noConfusion⟩
          · next trU hU =>
            have hUp : trH <+: trU := hRp.trans (prefix_of_eq (scaleStatefulSet_grows api _ _) hU)
            split
            · next trR e hR =>
              have hRp := prefix_of_call_eq hR
              exact .inl ⟨trR, _, false, hUp.trans hRp, rfl, fun _ => hRp.subset (scaleStatefulSet_ok hU)⟩
            · next trR hR =>
              have hRp := prefix_of_call_eq hR
              exact .inr ⟨trR, hUp.trans hRp, hRp.subset (scaleStatefulSet_ok hU), mem_call_of_ok hR, rfl⟩

/-- After an accepted suspend, the run of `healNode` goes on with the scale-down to
`scaleTarget replicas instanceNum`, whatever happens later. -/
theorem healNode_scaleDown (api : Api) (cfg : Config) (mdb : MariaDB) (targetPod : String)
    (instanceNum storageNow galeraNow : Int)
    (hS : (suspendCR api (Run.call api.err [] (.getPVC ("galera-" ++ targetPod))).1).2 = none) :
    (scaleStatefulSet api (scaleTarget mdb.replicas instanceNum)
        (suspendCR api (Run.call api.err [] (.getPVC ("galera-" ++ targetPod))).1).1).1 <+:
      (healNode api cfg mdb targetPod instanceNum storageNow galeraNow).1 := by
  have h := healNode_cases api cfg mdb targetPod instanceNum storageNow galeraNow
  dsimp only [healNames] at h
  have hH : ∀ (k : Nat) (name pvc mountPath : String) (tr : Run ApiCall),
      tr <+: (runHelperPod api name pvc mountPath (waitGone api targetPod k tr)).1 :=
    fun k _ _ _ tr => (waitGone_grows api targetPod k tr).trans (runHelperPod_grows api _ _ _ _)
  rcases h with ⟨e, hS', -⟩ | ⟨-, _, -, hr⟩ | ⟨-, -, tr, _, _, htr, hr, -⟩ | ⟨-, -, tr, htr, -, -, hr⟩
  · exact absurd (hS.symm.trans hS') (by simp)
  all_goals (rw [hr]; dsimp only)
  · exact rescue_grows api _ _ _ _ _ _
  · exact ((hH _ _ _ _ _).trans htr).trans (rescue_grows api _ _ _ _ _ tr)
  · exact ((hH _ _ _ _ _).trans htr).trans (readyLoop_grows api _ _ tr)

/-- A scale whose read and write are accepted. -/
theorem scaleStatefulSet_accepted {api : Api} {k : Int} {tr : Run ApiCall}
    (hget : api.err tr.calls .getScale = none)
    (hput : api.err (tr.calls ++ [.getScale]) (.updateScale k) = none) :
    scaleStatefulSet api k tr = (tr ++ [(.getScale, none), (.updateScale k, none)], none) := by
  simp [scaleStatefulSet, Run.call, hget, hput]

/-- **The wipe does not wait for the pod to go.**  For every API server that accepts the
suspend and the scale-down and whose every read of the target pod finds it, `healNode` makes
the wait's `deleteTimeout / 5` reads, all finding the pod, and creates the storage helper right
after them.  With a `deleteTimeout` from 1 to 4 it makes no read at all. -/
theorem healNode_wipes_without_wait (api : Api) (cfg : Config) (mdb : MariaDB) (targetPod : String)
    (instanceNum storageNow galeraNow : Int)
    (hsusp : ∀ calls, api.err calls (.patchSuspend true) = none)
    (hscale : ∀ calls, api.err calls .getScale = none)
    (hdown : ∀ calls, api.err calls (.updateScale (scaleTarget mdb.replicas instanceNum)) = none)
    (hpod : ∀ calls, api.err calls (.getPod targetPod) = none) :
    let n := healNames cfg.clusterName targetPod instanceNum storageNow galeraNow
    let deleteTimeout := if cfg.deleteTimeout ≤ 0 then 300 else cfg.deleteTimeout
    ∃ x, [(.getPVC n.galeraPVC, api.err [] (.getPVC n.galeraPVC)), (.patchSuspend true, none),
        (.getScale, none), (.updateScale (scaleTarget mdb.replicas instanceNum), none)] ++
      List.replicate (deleteTimeout / 5).toNat (.getPod targetPod, none) ++
      [(.createPod n.storageHelper n.storagePVC "/var/lib/mysql", x)] <+:
        (healNode api cfg mdb targetPod instanceNum storageNow galeraNow).1 := by
  intro n deleteTimeout
  have hS : ∀ tr, suspendCR api tr = (tr ++ [(.patchSuspend true, none)], none) := fun tr => by
    simp [suspendCR, Run.call, hsusp]
  have hD : ∀ tr, scaleStatefulSet api (scaleTarget mdb.replicas instanceNum) tr =
      (tr ++ [(.getScale, none), (.updateScale (scaleTarget mdb.replicas instanceNum), none)], none) :=
    fun _ => scaleStatefulSet_accepted (hscale _) (hdown _)
  -- every exit past the scale-down has the storage helper's run as a prefix
  have hpre : ∃ tr, (runHelperPod api n.storageHelper n.storagePVC "/var/lib/mysql"
      (waitGone api targetPod (deleteTimeout / 5).toNat
        ([(.getPVC n.galeraPVC, api.err [] (.getPVC n.galeraPVC)), (.patchSuspend true, none)] ++
          [(.getScale, none), (.updateScale (scaleTarget mdb.replicas instanceNum), none)]))).1 <+: tr ∧
      tr <+: (healNode api cfg mdb targetPod instanceNum storageNow galeraNow).1 := by
    rcases healNode_cases api cfg mdb targetPod instanceNum storageNow galeraNow with
      ⟨e, he, -⟩ | ⟨-, e, he, -⟩ | ⟨-, -, tr, e, d, hH, hr, -⟩ | ⟨-, -, tr, hH, -, -, hr⟩
    · simp [hS] at he
    · simp [hS, hD] at he
    · simp only [hS, hD] at hH
      exact ⟨tr, hH, by rw [hr]; dsimp only; exact rescue_grows api _ _ _ _ _ tr⟩
    · simp only [hS, hD] at hH
      exact ⟨tr, hH, by rw [hr]; dsimp only; exact readyLoop_grows api _ _ tr⟩
  obtain ⟨tr, hH, hr⟩ := hpre
  obtain ⟨x, hx⟩ := runHelperPod_create api n.storageHelper n.storagePVC "/var/lib/mysql"
    (waitGone api targetPod (deleteTimeout / 5).toNat
      ([(.getPVC n.galeraPVC, api.err [] (.getPVC n.galeraPVC)), (.patchSuspend true, none)] ++
        [(.getScale, none), (.updateScale (scaleTarget mdb.replicas instanceNum), none)]))
  rw [waitGone_present hpod] at hx hH
  exact ⟨x, (hx.trans hH).trans hr⟩

/-- An API server that accepts every call, on which every pod is always there, and that lists
no recovery pod. -/
def acceptingApi : Api where
  err := fun _ _ => none
  pod := fun _ _ => ⟨"Running", some true⟩
  listed := fun _ _ => []

/-- With `deleteTimeout` 4, the heal of `g-0` creates the storage helper right after the
scale-down, without a read of the pod. -/
theorem healNode_wipes_without_wait_shortTimeout :
    let cfg : Config := { clusterName := "g", ns := "db", deleteTimeout := 4 }
    let mdb : MariaDB := ⟨3, fun _ => none, fun _ => none⟩
    ∃ x, [(.getPVC "galera-g-0", none), (.patchSuspend true, none), (.getScale, none),
      (.updateScale 0, none), (.createPod "g-heal-storage-0-0" "storage-g-0" "/var/lib/mysql", x)] <+:
        (healNode acceptingApi cfg mdb "g-0" 0 0 0).1 := by
  intro cfg mdb
  obtain ⟨x, hx⟩ := healNode_wipes_without_wait acceptingApi cfg mdb "g-0" 0 0 0 (fun _ => rfl)
    (fun _ => rfl) (fun _ => rfl) (fun _ => rfl)
  exact ⟨x, hx⟩

/-- **What `rescue` compensates.**  For every API server: a `nil` return follows a scale-up to
the original count and a resume that were both accepted.  An error from the suspend patch is
returned at once, with no resume.  An error from the scale-down runs `rescue` with `scaledDown`
false, so with no scale back.  Every later error runs `rescue`, which scales back unless the
scale-up was accepted, and resumes. -/
theorem healNode_compensates (api : Api) (cfg : Config) (mdb : MariaDB) (targetPod : String)
    (instanceNum storageNow galeraNow : Int) :
    let n := healNames cfg.clusterName targetPod instanceNum storageNow galeraNow
    let probe := Run.call api.err [] (.getPVC n.galeraPVC)
    let S := suspendCR api probe.1
    let D := scaleStatefulSet api (scaleTarget mdb.replicas instanceNum) S.1
    let r := healNode api cfg mdb targetPod instanceNum storageNow galeraNow
    (r.2 = none → (ApiCall.updateScale mdb.replicas, none) ∈ r.1 ∧ (ApiCall.patchSuspend false, none) ∈ r.1) ∧
    (∀ e, S.2 = some e → r = (S.1, some ("failed to suspend CR: " ++ e))) ∧
    (∀ e, S.2 = none → D.2 = some e →
      r = (rescue api n probe.2.isNone mdb.replicas true false D.1, some ("failed to scale StatefulSet: " ++ e))) ∧
    (∀ e, r.2 = some e → S.2 = none → D.2 = none →
      ∃ tr d, r.1 = rescue api n probe.2.isNone mdb.replicas true d tr ∧
        (d = false → (ApiCall.updateScale mdb.replicas, none) ∈ tr)) := by
  intro n probe S D r
  rcases healNode_cases api cfg mdb targetPod instanceNum storageNow galeraNow with
    ⟨e, he, hr⟩ | ⟨hS, e, he, hr⟩ | ⟨hS, hD, tr, e, d, -, hr, hd⟩ | ⟨hS, hD, tr, -, hup, hres, hr⟩
  · -- the suspend failed
    refine ⟨fun h => ?_, fun e' he' => ?_, fun _ h => ?_, fun _ _ h => ?_⟩
    · simp [r, hr] at h
    · rw [show r = _ from hr, show e' = e by simpa [S, he] using he'.symm]
    all_goals simp [S, he] at h
  · -- the scale-down failed
    refine ⟨fun h => ?_, fun _ h => ?_, fun e' _ he' => ?_, fun _ _ _ h => ?_⟩
    · simp [r, hr] at h
    · simp [S, hS] at h
    · rw [show r = _ from hr, show e' = e by simpa [D, he] using he'.symm]
    · simp [D, he] at h
  · -- a later step failed
    refine ⟨fun h => ?_, fun _ h => ?_, fun _ _ h => ?_, fun _ _ _ _ => ⟨tr, d, by rw [show r = _ from hr], hd⟩⟩
    · simp [r, hr] at h
    · simp [S, hS] at h
    · simp [D, hD] at h
  · -- `nil`
    have hpre : tr <+: r.1 := by
      rw [show r = _ from hr]
      exact readyLoop_grows api _ _ tr
    refine ⟨fun _ => ⟨hpre.subset hup, hpre.subset hres⟩, fun _ h => ?_, fun _ _ h => ?_,
      fun _ h => ?_⟩
    · simp [S, hS] at h
    · simp [D, hD] at h
    · simp [r, hr] at h

/-- An API server that reports a timeout for the scale-down to `0`, and accepts every other call. -/
def scaleTimeoutApi : Api where
  err := fun _ a => if a = .updateScale 0 then some "etcdserver: request timed out" else none
  pod := fun _ _ => ⟨"Running", some true⟩
  listed := fun _ _ => []

/-- The heal of `g-0` on `scaleTimeoutApi` fails with the scale-down's error, resumes the CR and
never scales the StatefulSet back to its three replicas. -/
theorem healNode_compensates_scaleTimeout :
    let cfg : Config := { clusterName := "g", ns := "db" }
    let mdb : MariaDB := ⟨3, fun _ => none, fun _ => none⟩
    let r := healNode scaleTimeoutApi cfg mdb "g-0" 0 0 0
    r.2 = some "failed to scale StatefulSet: etcdserver: request timed out" ∧
      ApiCall.updateScale 3 ∉ r.1.calls ∧ (ApiCall.patchSuspend false, none) ∈ r.1 := by
  intro cfg mdb r
  rw [show r = _ from (healNode_compensates scaleTimeoutApi cfg mdb "g-0" 0 0 0).2.2.1
    "etcdserver: request timed out" rfl rfl]
  exact ⟨rfl, by decide, by decide⟩

end Galera
end Hasteward
