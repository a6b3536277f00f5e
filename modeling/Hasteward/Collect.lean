import Hasteward.Go.Text
import Mathlib.Data.List.Nodup
import Mathlib.Data.List.Perm.Basic

/-!
# What both engines' triage collection shares

Each engine's `triageCollect` begins alike: it lists the cluster's pods by label, sorts them into
running and crash-looping, compares them with the instances the cluster should have, and runs
`df -h` in every running pod.  This file holds what the two collectors share.

* `Pod` is a pod of the list as the collectors read it, and `PodList` a list as the API server
  returns it, in which no two pods share a name (`PodList.named_of_mem`).
* `MapOrder` is the order in which a `range` loop over a Go map visits the keys: any
  permutation, which may depend on the keys and differ from one loop to the next.  The
  collectors iterate three maps, and every theorem about them holds for every order.
* `ordinalNames c is` are the names `<c>-<i>`, distinct for distinct ordinals
  (`ordinalNames_nodup`).
* `parseDiskPercent`, which both engines define alike: the `Use%` column of the last line; and
  the two maps both engines fill alike, the crash reasons and the disk usage of the pods.
-/

set_option autoImplicit false

namespace Hasteward

open Go

/-! ## Pods -/

/-- A pod of the cluster as `triageCollect` reads it from the pod list: its name, whether its
phase is `Running`, the `Ready` flag of its first container status (`none` when it has none),
and the node it is scheduled on. -/
structure Pod where
  name : String
  running : Bool
  ready : Option Bool
  node : String
  deriving DecidableEq, Repr

/-- A running pod whose first container is not ready: crash-looping, in triage's words. -/
def Pod.crashloop (p : Pod) : Bool := p.running && p.ready == some false

theorem Pod.running_of_crashloop {p : Pod} (h : p.crashloop = true) : p.running = true := by
  simp only [Pod.crashloop, Bool.and_eq_true] at h
  exact h.1

/-- A pod list as the API server returns it: pod names are unique within a namespace. -/
structure PodList where
  items : List Pod
  names_nodup : (items.map (·.name)).Nodup

/-- The pod of the list named `n`. -/
def PodList.named (pl : PodList) (n : String) : Option Pod := pl.items.find? (·.name == n)

/-- A pod of the list is the pod of its name. -/
theorem PodList.named_of_mem {pl : PodList} {p : Pod} (hp : p ∈ pl.items) :
    pl.named p.name = some p := by
  obtain ⟨items, hnd⟩ := pl
  unfold PodList.named
  dsimp only at hp ⊢
  induction items with
  | nil => cases hp
  | cons q qs ih =>
    rw [List.map_cons, List.nodup_cons] at hnd
    rcases List.mem_cons.1 hp with rfl | hp
    · simp
    · have hq : q.name ≠ p.name := fun h => hnd.1 (h ▸ List.mem_map_of_mem _ hp)
      rw [List.find?_cons_of_neg _ (by simpa using hq)]
      exact ih hnd.2 hp

theorem PodList.mem_of_named {pl : PodList} {n : String} {p : Pod} (h : pl.named n = some p) :
    p ∈ pl.items ∧ p.name = n := by
  unfold PodList.named at h
  exact ⟨List.mem_of_find?_eq_some h, by simpa using List.find?_some h⟩

/-- A name is the name of a pod of the list exactly when the list has a pod of that name. -/
theorem PodList.named_isSome {pl : PodList} {n : String} :
    (pl.named n).isSome ↔ n ∈ pl.items.map (·.name) := by
  constructor
  · intro h
    obtain ⟨p, hp⟩ := Option.isSome_iff_exists.1 h
    obtain ⟨hm, rfl⟩ := PodList.mem_of_named hp
    exact List.mem_map_of_mem _ hm
  · intro h
    obtain ⟨p, hp, rfl⟩ := List.mem_map.1 h
    simp [PodList.named_of_mem hp]

/-- `data.runningPods`: the pods whose phase is `Running`, in list order. -/
def PodList.running (pl : PodList) : List Pod := pl.items.filter (·.running)

/-- `data.crashloopPods`: the running pods whose first container is not ready. -/
def PodList.crashlooping (pl : PodList) : List Pod := pl.running.filter (·.crashloop)

/-- The running pods the collectors treat as healthy: those whose name is not in
`crashloopNames`. -/
def PodList.healthy (pl : PodList) : List Pod :=
  pl.running.filter fun p => p.name ∉ pl.crashlooping.map (·.name)

/-- The expected instances with no pod of their name, running or not. -/
def PodList.missing (pl : PodList) (expected : List String) : List String :=
  expected.filter (· ∉ pl.items.map (·.name))

/-- Two pods of the list with one name are one pod. -/
theorem PodList.eq_of_name_eq {pl : PodList} {p q : Pod} (hp : p ∈ pl.items) (hq : q ∈ pl.items)
    (h : p.name = q.name) : p = q := by
  have := PodList.named_of_mem hp
  rw [h, PodList.named_of_mem hq] at this
  exact (Option.some.inj this).symm

theorem PodList.mem_crashlooping {pl : PodList} {p : Pod} :
    p ∈ pl.crashlooping ↔ p ∈ pl.items ∧ p.crashloop = true := by
  simp only [PodList.crashlooping, PodList.running, List.mem_filter, and_assoc]
  exact ⟨fun h => ⟨h.1, h.2.2⟩, fun h => ⟨h.1, Pod.running_of_crashloop h.2, h.2⟩⟩

/-- With unique names, the test on `crashloopNames` is the test on the pod itself. -/
theorem PodList.name_mem_crashlooping {pl : PodList} {p : Pod} (hp : p ∈ pl.items) :
    p.name ∈ pl.crashlooping.map (·.name) ↔ p.crashloop = true := by
  constructor
  · intro h
    obtain ⟨q, hq, hqn⟩ := List.mem_map.1 h
    obtain ⟨hq, hc⟩ := PodList.mem_crashlooping.1 hq
    rwa [← PodList.eq_of_name_eq hq hp hqn]
  · exact fun h => List.mem_map_of_mem _ (PodList.mem_crashlooping.2 ⟨hp, h⟩)

theorem PodList.healthy_eq (pl : PodList) : pl.healthy = pl.running.filter (!·.crashloop) := by
  refine List.filter_congr fun p hp => ?_
  have hp : p ∈ pl.items := (List.mem_filter.1 hp).1
  cases h : p.crashloop <;> simp [PodList.name_mem_crashlooping hp, h]

theorem PodList.mem_healthy {pl : PodList} {p : Pod} :
    p ∈ pl.healthy ↔ p ∈ pl.items ∧ p.running = true ∧ p.crashloop = false := by
  simp only [PodList.healthy_eq, PodList.running, List.mem_filter, Bool.not_eq_true', and_assoc]

/-- A name is a healthy pod's exactly when it is a running pod's and no crash-looping pod's. -/
theorem PodList.name_mem_healthy {pl : PodList} {n : String} :
    n ∈ pl.healthy.map (·.name) ↔
      n ∈ pl.running.map (·.name) ∧ n ∉ pl.crashlooping.map (·.name) := by
  simp only [PodList.healthy, List.mem_map, List.mem_filter, decide_eq_true_eq]
  constructor
  · rintro ⟨p, ⟨hp, hc⟩, rfl⟩
    exact ⟨⟨p, hp, rfl⟩, hc⟩
  · rintro ⟨⟨p, hp, rfl⟩, hc⟩
    exact ⟨p, ⟨hp, hc⟩, rfl⟩

/-- The healthy pods, then the crash-looping ones, are the running pods in another order. -/
theorem PodList.healthy_append_crashlooping_perm (pl : PodList) :
    (pl.healthy ++ pl.crashlooping).Perm pl.running := by
  rw [PodList.healthy_eq]
  exact List.perm_append_comm.trans (List.filter_append_perm _ _)

theorem PodList.running_sublist (pl : PodList) : pl.running.Sublist pl.items :=
  List.filter_sublist _

/-- The keys of the records a `filterMap` keeps, when each record's key is its source's. -/
theorem map_filterMap_of_key {α β γ : Type} {f : α → Option β} {key : β → γ} {k : α → γ}
    (hf : ∀ a b, f a = some b → key b = k a) (l : List α) :
    (l.filterMap f).map key = (l.filter fun a => (f a).isSome).map k := by
  induction l with
  | nil => rfl
  | cons a l ih =>
    cases h : f a with
    | none => simp [List.filterMap_cons, h, ih]
    | some b => simp [List.filterMap_cons, h, ih, hf a b h]

/-! ## `df -h` -/

/-- `parseDiskPercent` (both engines): the fifth field of the last line of the trimmed output,
without its `%`, read by `strconv.Atoi`; `-1` when there is no such field or it is no number. -/
def parseDiskPercent (dfOutput : String) : Int :=
  let lines := (trimSpace dfOutput).splitOn "\n"
  if lines.length < 2 then -1
  else
    let fs := fields (lines.getLastD "")
    if fs.length < 5 then -1
    else (parseInt 10 (trimSuffix (fs.getD 4 "") '%')).getD (-1)

/-- `data.crashReasons`, which both engines fill alike: `disk_full` for a crash-looping pod whose
logs hold one of the engine's disk messages, nothing (`""`) for every other pod. -/
def PodList.crashReason (pl : PodList) (logs : String → Option String) (messages : List String)
    (n : String) : String :=
  if n ∈ pl.crashlooping.map (·.name) then
    match logs n with
    | some t => if messages.any (contains t) then "disk_full" else ""
    | none => ""
  else ""

/-- `data.diskUsage`, which both engines fill alike: the `df -h` reading of each running pod, Go's
`0` for a pod where `df` failed and for the others. -/
def PodList.diskUsage (pl : PodList) (df : String → Option String) (n : String) : Int :=
  if n ∈ pl.running.map (·.name) then
    match df n with
    | some out => parseDiskPercent out
    | none => 0
  else 0

/-! ## Go maps -/

/-- The order in which a `range` loop visits the keys of a Go map. -/
structure MapOrder where
  perm : List String → List String
  perm_spec : ∀ l, (perm l).Perm l

/-- Keys in the order they were inserted. -/
def MapOrder.insertion : MapOrder := ⟨id, fun l => List.Perm.refl l⟩

/-! ## Instance names -/

/-- `fmt.Sprintf("%s-%d", cluster, i)` for each ordinal `i`. -/
def ordinalNames (cluster : String) (is : List Nat) : List String :=
  is.map fun i => cluster ++ "-" ++ toString i

theorem ordinalNames_nodup (cluster : String) {is : List Nat} (h : is.Nodup) :
    (ordinalNames cluster is).Nodup := by
  refine List.Nodup.map (fun i j hij => toString_injective (String.ext ?_)) h
  simpa using congrArg String.data hij

end Hasteward
