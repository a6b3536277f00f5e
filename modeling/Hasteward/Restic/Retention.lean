import Mathlib.Data.List.Perm.Basic
import Hasteward.Go.Time

/-!
# Group-aware retention: `GroupByJob`, `ApplyGroupRetention` and `ForgetGrouped`

The diverged captures of one repair share a `job` tag, and retention must treat them as one unit.
`GroupByJob` collects the snapshots into a map from job id to group and sorts the groups newest
first; `ApplyGroupRetention` marks the groups a policy keeps in a set of job ids and splits the
groups by it; `ForgetGrouped` forgets every snapshot of every removed group.

Go leaves two things open here: the order in which a map is iterated, and the order `sort.Slice`
gives to groups of equal time.  So `GroupByJob` is a relation, `GroupByJob snapshots gs`, that
holds of every order the code may return, and the theorems hold for each of them; `groupByJob`,
a merge sort, is one such order (`groupByJob_spec`).

* `GroupByJob.flatten_perm`: the groups hold every snapshot exactly once, each in the group of
  its own job id, one group per job id.
* `forgetGrouped_keeps_groups_whole`: keep and remove split the snapshots along the groups, and
  `ForgetGrouped` forgets the removed snapshots in order, up to the first forget that fails
  (`forgetGrouped_stops_on_failed_forget`: a failed forget leaves the rest of a removed group).
* `applyGroupRetention_mono`: raising a policy with a positive dimension only keeps more.
* `applyGroupRetention_windows`: on the order of `GroupByJob`, the code's comparison of each
  group's key with the previous one's keeps exactly the first groups of the first days, ISO
  weeks and months (`WindowKept`), because the keys of `Hasteward.Go.Time` are intervals of time.
-/

set_option autoImplicit false

namespace Hasteward
namespace Restic

/-! ## Snapshots and their tags -/

/-- `restic.Snapshot`: the fields retention reads (`Hostname` and `Paths` it does not). -/
structure Snapshot where
  id : String
  shortID : String
  time : Time
  tags : List String
  deriving DecidableEq, Repr

/-- The split `TagMap` makes of a tag at its first `=`: key and value, when there is an `=` and
it is not the tag's first character (`strings.Index(t, "=") > 0`). -/
def splitTag (t : String) : Option (String × String) :=
  match t.data.span (· != '=') with
  | (k :: ks, _ :: v) => some (⟨k :: ks⟩, ⟨v⟩)
  | _ => none

/-- `s.TagMap()[key]`: the value of the last tag `key=value`, and `""` when there is none. -/
def Snapshot.tag (s : Snapshot) (key : String) : String :=
  s.tags.foldl (fun v t => match splitTag t with
    | some (k, v') => if k = key then v' else v
    | none => v) ""

/-- The job id `GroupByJob` files a snapshot under: its `job` tag, or `ungrouped-<ShortID>`
when that is empty. -/
def Snapshot.jobID (s : Snapshot) : String :=
  let jobID := s.tag "job"
  if jobID = "" then "ungrouped-" ++ s.shortID else jobID

theorem Snapshot.jobID_of_tag {s : Snapshot} (h : s.tag "job" ≠ "") : s.jobID = s.tag "job" :=
  if_neg h

/-! ## `GroupByJob` -/

/-- `restic.JobGroup`. -/
structure JobGroup where
  jobID : String
  time : Time
  snapshots : List Snapshot
  deriving DecidableEq, Repr

/-- `g.Snapshots = append(g.Snapshots, s)`. -/
def JobGroup.push (g : JobGroup) (s : Snapshot) : JobGroup :=
  { g with snapshots := g.snapshots ++ [s] }

/-- One iteration of `GroupByJob`'s loop, on the map from job id to group kept as the list of
its entries: append the snapshot to the group of its job id, or start that group with the
snapshot's time. -/
def addSnapshot (groups : List JobGroup) (s : Snapshot) : List JobGroup :=
  if s.jobID ∈ groups.map JobGroup.jobID then
    groups.map fun g => if g.jobID = s.jobID then g.push s else g
  else groups ++ [⟨s.jobID, s.time, [s]⟩]

@[simp] theorem JobGroup.push_snapshots (g : JobGroup) (s : Snapshot) :
    (g.push s).snapshots = g.snapshots ++ [s] := rfl

@[simp] theorem JobGroup.jobID_update (g : JobGroup) (s : Snapshot) :
    (if g.jobID = s.jobID then g.push s else g).jobID = g.jobID := by
  split <;> rfl

/-- The map `GroupByJob` builds. -/
def collectGroups (snapshots : List Snapshot) : List JobGroup := snapshots.foldl addSnapshot []

/-- `GroupByJob(snapshots)` may return `gs`: the map's groups in an order Go may iterate them
in, sorted newest first by a sort that need not keep the order of groups of equal time. -/
structure GroupByJob (snapshots : List Snapshot) (gs : List JobGroup) : Prop where
  perm : gs.Perm (collectGroups snapshots)
  sorted : gs.Pairwise fun a b => b.time.unix ≤ a.time.unix

/-- One order `GroupByJob` may return: the map's groups in insertion order, merge sorted. -/
def groupByJob (snapshots : List Snapshot) : List JobGroup :=
  (collectGroups snapshots).mergeSort fun a b => decide (b.time.unix ≤ a.time.unix)

theorem groupByJob_spec (snapshots : List Snapshot) :
    GroupByJob snapshots (groupByJob snapshots) where
  perm := List.mergeSort_perm _ _
  sorted := (List.sorted_mergeSort (fun a b c hab hbc => by simp only [decide_eq_true_eq] at *; omega)
    (fun a b => by simp only [Bool.or_eq_true, decide_eq_true_eq]; omega) _).imp
      fun h => of_decide_eq_true h

/-- What the map of `GroupByJob` keeps true: one entry per job id, and every snapshot in the
entry of its own job id. -/
structure GroupsWF (groups : List JobGroup) : Prop where
  nodup : (groups.map JobGroup.jobID).Nodup
  jobID_eq : ∀ g ∈ groups, ∀ s ∈ g.snapshots, s.jobID = g.jobID

theorem GroupsWF.nil : GroupsWF [] := ⟨List.nodup_nil, by simp⟩

theorem GroupsWF.perm {gs gs' : List JobGroup} (h : GroupsWF gs) (hp : gs'.Perm gs) :
    GroupsWF gs' :=
  ⟨(hp.map _).nodup_iff.2 h.nodup, fun g hg => h.jobID_eq g (hp.mem_iff.1 hg)⟩

/-- Two snapshots in groups of one well-formed list, with one job id, are in one group. -/
theorem GroupsWF.same_group {gs : List JobGroup} (h : GroupsWF gs) {g g' : JobGroup}
    (hg : g ∈ gs) (hg' : g' ∈ gs) {s s' : Snapshot} (hs : s ∈ g.snapshots)
    (hs' : s' ∈ g'.snapshots) (hid : s.jobID = s'.jobID) : g = g' :=
  List.inj_on_of_nodup_map h.nodup hg hg'
    (by rw [← h.jobID_eq g hg s hs, ← h.jobID_eq g' hg' s' hs', hid])

theorem GroupsWF.addSnapshot {gs : List JobGroup} (h : GroupsWF gs) (s : Snapshot) :
    GroupsWF (addSnapshot gs s) := by
  unfold Restic.addSnapshot
  split
  · refine ⟨by simpa only [List.map_map, Function.comp_def, JobGroup.jobID_update] using h.nodup,
      ?_⟩
    simp only [List.mem_map]
    rintro _ ⟨g, hg, rfl⟩ t ht
    rw [JobGroup.jobID_update]
    split at ht
    · next hgs =>
      rcases List.mem_append.1 ht with ht | ht
      · exact h.jobID_eq g hg t ht
      · rw [List.mem_singleton.1 ht, hgs]
    · exact h.jobID_eq g hg t ht
  · next hnew =>
    refine ⟨?_, ?_⟩
    · rw [List.map_append, List.nodup_append]
      refine ⟨h.nodup, List.nodup_singleton _, fun a ha hb => hnew ?_⟩
      simp only [List.map_cons, List.map_nil, List.mem_singleton] at hb
      rwa [← hb]
    · simp only [List.mem_append, List.mem_singleton]
      rintro g (hg | rfl) t ht
      · exact h.jobID_eq g hg t ht
      · rw [List.mem_singleton.1 ht]

/-- Appending `s` to the one group of its job id appends it to the snapshots, up to order. -/
theorem flatten_update_perm (s : Snapshot) : ∀ gs : List JobGroup,
    (gs.map JobGroup.jobID).Nodup → s.jobID ∈ gs.map JobGroup.jobID →
    ((gs.map fun g => if g.jobID = s.jobID then g.push s else g).map JobGroup.snapshots).flatten.Perm
      ((gs.map JobGroup.snapshots).flatten ++ [s])
  | [], _, hs => by simp at hs
  | g :: gs, hnd, hs => by
    rw [List.map_cons, List.nodup_cons] at hnd
    simp only [List.map_cons, List.flatten_cons, List.append_assoc]
    split
    · next hg =>
      have hrest : (gs.map fun g => if g.jobID = s.jobID then g.push s else g) = gs :=
        (List.map_congr_left fun g' hg' => if_neg fun h => hnd.1 (by
          rw [hg, ← h]; exact List.mem_map_of_mem _ hg')).trans (List.map_id _)
      rw [hrest, JobGroup.push_snapshots, List.append_assoc]
      exact List.Perm.append_left _ List.perm_append_comm
    · next hg =>
      have hs' : s.jobID ∈ gs.map JobGroup.jobID := by
        rcases List.mem_cons.1 hs with h | h
        · exact absurd h.symm hg
        · exact h
      exact List.Perm.append_left _ (flatten_update_perm s gs hnd.2 hs')

theorem flatten_addSnapshot {gs : List JobGroup} (h : GroupsWF gs) (s : Snapshot) :
    ((addSnapshot gs s).map JobGroup.snapshots).flatten.Perm
      ((gs.map JobGroup.snapshots).flatten ++ [s]) := by
  unfold Restic.addSnapshot
  split
  · exact flatten_update_perm s gs h.nodup ‹_›
  · simp

/-- The loop of `GroupByJob` keeps its map well formed and loses no snapshot. -/
theorem foldl_addSnapshot (snapshots : List Snapshot) : ∀ acc : List JobGroup, GroupsWF acc →
    GroupsWF (snapshots.foldl addSnapshot acc) ∧
      ((snapshots.foldl addSnapshot acc).map JobGroup.snapshots).flatten.Perm
        ((acc.map JobGroup.snapshots).flatten ++ snapshots) := by
  induction snapshots with
  | nil => exact fun acc h => ⟨h, by simp⟩
  | cons s ss ih =>
    intro acc h
    obtain ⟨hwf, hp⟩ := ih (addSnapshot acc s) (h.addSnapshot s)
    refine ⟨hwf, hp.trans ?_⟩
    rw [← List.singleton_append, ← List.append_assoc]
    exact (flatten_addSnapshot h s).append_right _

theorem GroupByJob.wf {snapshots : List Snapshot} {gs : List JobGroup}
    (h : GroupByJob snapshots gs) : GroupsWF gs :=
  (foldl_addSnapshot snapshots [] GroupsWF.nil).1.perm h.perm

/-- Every snapshot is in exactly one group. -/
theorem GroupByJob.flatten_perm {snapshots : List Snapshot} {gs : List JobGroup}
    (h : GroupByJob snapshots gs) : (gs.map JobGroup.snapshots).flatten.Perm snapshots := by
  have := (foldl_addSnapshot snapshots [] GroupsWF.nil).2
  simp only [List.map_nil, List.flatten_nil, List.nil_append] at this
  exact ((h.perm.map _).flatten).trans this

/-- Two captures of job `j1`, and a later snapshot of job `j2`. -/
def twoJobs : List Snapshot :=
  [⟨"a1", "a1", ⟨100⟩, ["job=j1"]⟩, ⟨"a2", "a2", ⟨100⟩, ["job=j1"]⟩, ⟨"b", "b", ⟨200⟩, ["job=j2"]⟩]

/-- The groups of `twoJobs`, newest first. -/
def twoJobsGroups : List JobGroup :=
  [⟨"j2", ⟨200⟩, [⟨"b", "b", ⟨200⟩, ["job=j2"]⟩]⟩,
    ⟨"j1", ⟨100⟩, [⟨"a1", "a1", ⟨100⟩, ["job=j1"]⟩, ⟨"a2", "a2", ⟨100⟩, ["job=j1"]⟩]⟩]

theorem twoJobs_groupByJob : GroupByJob twoJobs twoJobsGroups :=
  ⟨by decide, by decide⟩

/-! ## `ApplyGroupRetention` -/

/-- `restic.RetentionPolicy`: how many of the newest jobs, days, ISO weeks and months to keep. -/
structure RetentionPolicy where
  keepLast : Int := 0
  keepDaily : Int := 0
  keepWeekly : Int := 0
  keepMonthly : Int := 0
  deriving DecidableEq, Repr

/-- The loop of `ApplyGroupRetention` over the windows of `key` (day, ISO week or month): walk
the groups, and when a group's key differs from the previous one's, count a new window, stop
when more than `bound` have been seen, and otherwise mark the group's job id. -/
def markWindows (key : Time → String) (bound : Int) : List JobGroup → String → Int → List String
  | [], _, _ => []
  | g :: gs, last, seen =>
    if key g.time ≠ last then
      if seen + 1 > bound then [] else g.jobID :: markWindows key bound gs (key g.time) (seen + 1)
    else markWindows key bound gs last seen

/-- The job ids `ApplyGroupRetention` puts in its `keepSet`.  The `keepLast` loop marks the
groups before index `KeepLast` and breaks there. -/
def keepSet (groups : List JobGroup) (policy : RetentionPolicy) : List String :=
  (if policy.keepLast > 0 then (groups.take policy.keepLast.toNat).map JobGroup.jobID else []) ++
  (if policy.keepDaily > 0 then markWindows Time.dateKey policy.keepDaily groups "" 0 else []) ++
  (if policy.keepWeekly > 0 then markWindows Time.weekKey policy.keepWeekly groups "" 0 else []) ++
  (if policy.keepMonthly > 0 then markWindows Time.monthKey policy.keepMonthly groups "" 0
    else [])

/-- `ApplyGroupRetention(groups, policy)`: `(keep, remove)`. -/
def applyGroupRetention (groups : List JobGroup) (policy : RetentionPolicy) :
    List JobGroup × List JobGroup :=
  if groups = [] then ([], [])
  -- all zeros = keep everything
  else if policy.keepLast = 0 ∧ policy.keepDaily = 0 ∧ policy.keepWeekly = 0 ∧
      policy.keepMonthly = 0 then (groups, [])
  else
    let kept := fun g : JobGroup => decide (g.jobID ∈ keepSet groups policy)
    (groups.filter kept, groups.filter fun g => !kept g)

/-- Keep and remove split the groups. -/
theorem applyGroupRetention_perm (groups : List JobGroup) (policy : RetentionPolicy) :
    ((applyGroupRetention groups policy).1 ++ (applyGroupRetention groups policy).2).Perm
      groups := by
  unfold applyGroupRetention
  split_ifs with h0
  · simp [h0]
  · simp
  · exact List.filter_append_perm _ _

/-! ## Policies with no positive dimension -/

/-- The all-zero policy is the default one. -/
theorem RetentionPolicy.zero_iff (p : RetentionPolicy) :
    (p.keepLast = 0 ∧ p.keepDaily = 0 ∧ p.keepWeekly = 0 ∧ p.keepMonthly = 0) ↔ p = {} := by
  cases p; simp

/-- One `--keep-*` flag of `Forget`: passed only for a positive value. -/
def keepFlag (flag : String) (n : Int) : List String :=
  if n > 0 then [flag, toString n] else []

/-- The `--keep-*` flags `Forget(ctx, tags, policy, prune)` passes to `restic forget`. -/
def forgetKeepFlags (policy : RetentionPolicy) : List String :=
  keepFlag "--keep-last" policy.keepLast ++ keepFlag "--keep-daily" policy.keepDaily ++
    keepFlag "--keep-weekly" policy.keepWeekly ++ keepFlag "--keep-monthly" policy.keepMonthly

theorem keepSet_of_nonpos (groups : List JobGroup) {policy : RetentionPolicy}
    (hl : policy.keepLast ≤ 0) (hd : policy.keepDaily ≤ 0) (hw : policy.keepWeekly ≤ 0)
    (hm : policy.keepMonthly ≤ 0) : keepSet groups policy = [] := by
  simp only [keepSet, if_neg (not_lt.2 hl), if_neg (not_lt.2 hd), if_neg (not_lt.2 hw),
    if_neg (not_lt.2 hm), List.append_nil]

/-- **A policy with no positive dimension.**  `Forget` passes no `--keep-*` flag for it, and
`ApplyGroupRetention`, which tests for zeros only, keeps every group for the all-zero policy
and removes every group for any other: a negative value leaves every dimension inactive and
the keep-set empty. -/
theorem applyGroupRetention_nonpositive (groups : List JobGroup) (policy : RetentionPolicy)
    (h : policy.keepLast ≤ 0 ∧ policy.keepDaily ≤ 0 ∧ policy.keepWeekly ≤ 0 ∧
      policy.keepMonthly ≤ 0) :
    applyGroupRetention groups policy = (if policy = {} then (groups, []) else ([], groups)) ∧
      forgetKeepFlags policy = [] := by
  obtain ⟨hl, hd, hw, hm⟩ := h
  refine ⟨?_, by simp [forgetKeepFlags, keepFlag, not_lt.2 hl, not_lt.2 hd, not_lt.2 hw,
    not_lt.2 hm]⟩
  simp only [applyGroupRetention, RetentionPolicy.zero_iff, keepSet_of_nonpos groups hl hd hw hm]
  split_ifs with h0 <;> simp [h0]

/-- The prune command's `--keep-last -1`: `Forget` keeps the standard backups, and
`ApplyGroupRetention` removes both diverged jobs. -/
theorem applyGroupRetention_nonpositive_keepLastNeg :
    applyGroupRetention twoJobsGroups { keepLast := -1 } = ([], twoJobsGroups) ∧
      forgetKeepFlags { keepLast := -1 } = [] := by
  have h := applyGroupRetention_nonpositive twoJobsGroups { keepLast := -1 } (by decide)
  rwa [if_neg (by decide)] at h

/-! ## Monotonicity in the policy -/

/-- A window loop with a larger bound marks what the smaller one marks, and more after it. -/
theorem markWindows_mono_bound (key : Time → String) {b b' : Int} (hb : b ≤ b') :
    ∀ (gs : List JobGroup) (last : String) (seen : Int),
      markWindows key b gs last seen <+: markWindows key b' gs last seen
  | [], _, _ => List.nil_prefix
  | g :: gs, last, seen => by
    simp only [markWindows]
    split
    · split
      · exact List.nil_prefix
      · rw [if_neg (by omega), List.prefix_cons_inj]
        exact markWindows_mono_bound key hb gs _ _
    · exact markWindows_mono_bound key hb gs _ _

/-- A guarded loop, `if bound > 0 { ... }`, that grows with its bound. -/
theorem guarded_sublist {b b' : Int} (hb : b ≤ b') (l : Int → List String)
    (hl : (l b).Sublist (l b')) :
    (if b > 0 then l b else []).Sublist (if b' > 0 then l b' else []) := by
  split
  · rwa [if_pos (by omega)]
  · exact List.nil_sublist _

/-- Raising the policy's bounds only adds to the keep-set. -/
theorem keepSet_mono (gs : List JobGroup) {p p' : RetentionPolicy}
    (hl : p.keepLast ≤ p'.keepLast) (hd : p.keepDaily ≤ p'.keepDaily)
    (hw : p.keepWeekly ≤ p'.keepWeekly) (hm : p.keepMonthly ≤ p'.keepMonthly) :
    (keepSet gs p).Sublist (keepSet gs p') := by
  have window := fun (key : Time → String) {b b' : Int} (hb : b ≤ b') =>
    guarded_sublist hb (fun b => markWindows key b gs "" 0) (markWindows_mono_bound key hb gs "" 0).sublist
  exact ((guarded_sublist hl (fun b => (gs.take b.toNat).map JobGroup.jobID)
    ((List.take_prefix_take_left _ (by omega)).sublist.map _)).append (window _ hd)).append
      (window _ hw) |>.append (window _ hm)

/-- **Retention is monotone away from the keep-everything policy.**  Raising any dimensions of
a policy with a positive dimension keeps every group it kept, in the same order. -/
theorem applyGroupRetention_mono (gs : List JobGroup) (p p' : RetentionPolicy)
    (hl : p.keepLast ≤ p'.keepLast) (hd : p.keepDaily ≤ p'.keepDaily)
    (hw : p.keepWeekly ≤ p'.keepWeekly) (hm : p.keepMonthly ≤ p'.keepMonthly)
    (hpos : 0 < p.keepLast ∨ 0 < p.keepDaily ∨ 0 < p.keepWeekly ∨ 0 < p.keepMonthly) :
    (applyGroupRetention gs p).1.Sublist (applyGroupRetention gs p').1 := by
  unfold applyGroupRetention
  rw [if_neg (by omega : ¬(p.keepLast = 0 ∧ p.keepDaily = 0 ∧ p.keepWeekly = 0 ∧ p.keepMonthly = 0)),
    if_neg (by omega : ¬(p'.keepLast = 0 ∧ p'.keepDaily = 0 ∧ p'.keepWeekly = 0 ∧
      p'.keepMonthly = 0))]
  split
  · exact List.Sublist.refl _
  · exact List.monotone_filter_right _ fun g h => by
      simp only [decide_eq_true_eq] at h ⊢
      exact (keepSet_mono gs hl hd hw hm).subset h

theorem applyGroupRetention_mono_twoJobs :
    (applyGroupRetention twoJobsGroups { keepLast := 1 }).1.Sublist
      (applyGroupRetention twoJobsGroups { keepLast := 1, keepDaily := 1 }).1 :=
  applyGroupRetention_mono _ _ _ (by decide) (by decide) (by decide) (by decide) (by decide)

/-! ## The windows are the first groups of each day, week and month

The window loops compare a group's key with the *previous* group's only.  On groups sorted newest
first, and with keys that are intervals of time (`WindowKey`), the groups where the key changes
are exactly the first groups of each key (`runFirsts_eq_firstsBy`), which is what the policy
asks for. -/

/-- The first element of each class of `key`, in order, the classes in `seen` excepted. -/
def firstsBy {α β : Type} [DecidableEq β] (key : α → β) : List β → List α → List α
  | _, [] => []
  | seen, a :: l =>
    if key a ∈ seen then firstsBy key seen l else a :: firstsBy key (key a :: seen) l

theorem firstsBy_subset {α β : Type} [DecidableEq β] (key : α → β) :
    ∀ (seen : List β) (l : List α), firstsBy key seen l ⊆ l
  | _, [] => List.nil_subset _
  | seen, a :: l => by
    unfold firstsBy
    split
    · exact (firstsBy_subset key seen l).trans (List.subset_cons_self _ _)
    · exact List.cons_subset_cons _ (firstsBy_subset key _ l)

/-- Keys with the same classes have the same first elements. -/
theorem firstsBy_congr {α β γ : Type} [DecidableEq β] [DecidableEq γ] {k₁ : α → β} {k₂ : α → γ}
    (h : ∀ a b, k₁ a = k₁ b ↔ k₂ a = k₂ b) : ∀ (l : List α) (s₁ : List β) (s₂ : List γ),
    (∀ a ∈ l, k₁ a ∈ s₁ ↔ k₂ a ∈ s₂) → firstsBy k₁ s₁ l = firstsBy k₂ s₂ l
  | [], _, _, _ => rfl
  | a :: l, s₁, s₂, hs => by
    have hl : ∀ x ∈ l, x ∈ a :: l := fun x hx => List.mem_cons_of_mem _ hx
    unfold firstsBy
    by_cases ha : k₁ a ∈ s₁
    · rw [if_pos ha, if_pos ((hs a (List.mem_cons_self _ _)).1 ha)]
      exact firstsBy_congr h l s₁ s₂ fun x hx => hs x (hl x hx)
    · rw [if_neg ha, if_neg (mt (hs a (List.mem_cons_self _ _)).2 ha)]
      refine congrArg (a :: ·) (firstsBy_congr h l _ _ fun x hx => ?_)
      simp only [List.mem_cons, h x a, hs x (hl x hx)]

/-- The groups a window loop counts: those whose key differs from the previous group's. -/
def runFirsts (key : Time → String) : String → List JobGroup → List JobGroup
  | _, [] => []
  | last, g :: gs =>
    if key g.time ≠ last then g :: runFirsts key (key g.time) gs else runFirsts key last gs

/-- A window loop marks the first `bound` groups it counts. -/
theorem markWindows_eq (key : Time → String) (bound : Int) :
    ∀ (gs : List JobGroup) (last : String) (seen : Int),
      markWindows key bound gs last seen =
        ((runFirsts key last gs).take (bound - seen).toNat).map JobGroup.jobID
  | [], _, _ => by simp [markWindows, runFirsts]
  | g :: gs, last, seen => by
    simp only [markWindows, runFirsts]
    split
    · split
      · rw [show (bound - seen).toNat = 0 by omega, List.take_zero, List.map_nil]
      · rw [show (bound - seen).toNat = (bound - (seen + 1)).toNat + 1 by omega,
          List.take_succ_cons, List.map_cons, markWindows_eq key bound gs]
    · exact markWindows_eq key bound gs last seen

section Windows

variable {key : Time → String} {idx : Time → Int}

/-- On groups sorted newest first, the groups where a window key changes are the first groups
of each key. -/
theorem runFirsts_eq_firstsBy (hk : WindowKey key idx) :
    ∀ (gs : List JobGroup) (seen : List String) (last : String),
      gs.Pairwise (fun a b => b.time.unix ≤ a.time.unix) →
      (∀ g ∈ gs, key g.time ∈ seen ↔ key g.time = last) →
      (last = "" ∨ ∃ t, key t = last ∧ ∀ g ∈ gs, idx g.time ≤ idx t) →
      runFirsts key last gs = firstsBy (fun g => key g.time) seen gs
  | [], _, _, _, _, _ => rfl
  | g :: gs, seen, last, hs, hseen, hlast => by
    rw [List.pairwise_cons] at hs
    have hl : ∀ x ∈ gs, x ∈ g :: gs := fun x hx => List.mem_cons_of_mem _ hx
    unfold runFirsts firstsBy
    by_cases hg : key g.time = last
    · rw [if_neg (not_not.2 hg), if_pos ((hseen g (List.mem_cons_self _ _)).2 hg)]
      exact runFirsts_eq_firstsBy hk gs seen last hs.2 (fun x hx => hseen x (hl x hx))
        (hlast.imp_right fun ⟨t, ht, hle⟩ => ⟨t, ht, fun x hx => hle x (hl x hx)⟩)
    · rw [if_pos hg, if_neg (mt (hseen g (List.mem_cons_self _ _)).1 hg)]
      have hle : ∀ x ∈ gs, idx x.time ≤ idx g.time := fun x hx => hk.mono _ _ (hs.1 x hx)
      refine congrArg (g :: ·) (runFirsts_eq_firstsBy hk gs _ _ hs.2 (fun x hx => ?_)
        (.inr ⟨g.time, rfl, hle⟩))
      rw [List.mem_cons, hseen x (hl x hx)]
      refine ⟨fun h => h.elim id fun hxl => ?_, .inl⟩
      -- a key met before `g`'s window and again after it would make the windows overlap
      rcases hlast with rfl | ⟨t, rfl, ht⟩
      · exact absurd hxl (hk.ne_empty _)
      · have h1 := (hk.eq_iff _ _).1 hxl
        have h2 := ht g (List.mem_cons_self _ _)
        have h3 := hle x hx
        exact absurd ((hk.eq_iff _ _).2 (by omega)) hg

/-- What a guarded window loop marks, on groups sorted newest first: the job ids of the first
groups of the first `bound` classes of `spec`, a key with the classes of the window key. -/
theorem window_eq {β : Type} [DecidableEq β] (hk : WindowKey key idx) {spec : JobGroup → β}
    (hspec : ∀ a b, key a.time = key b.time ↔ spec a = spec b) (bound : Int)
    (gs : List JobGroup) (hs : gs.Pairwise fun a b => b.time.unix ≤ a.time.unix) :
    (if bound > 0 then markWindows key bound gs "" 0 else []) =
      ((firstsBy spec [] gs).take bound.toNat).map JobGroup.jobID := by
  split
  · rw [markWindows_eq, Int.sub_zero, runFirsts_eq_firstsBy hk gs [] "" hs
      (fun g _ => by simp [hk.ne_empty]) (.inl rfl), firstsBy_congr hspec gs [] [] (by simp)]
  · rw [show bound.toNat = 0 by omega, List.take_zero, List.map_nil]

end Windows

/-- The groups the windowed policy keeps, in the words of its specification: the first
`keepLast` groups, and the first group of each of the first `keepDaily` UTC dates, the first
`keepWeekly` ISO weeks and the first `keepMonthly` UTC months, in the order of `gs`. -/
def WindowKept (gs : List JobGroup) (p : RetentionPolicy) (g : JobGroup) : Prop :=
  g ∈ gs.take p.keepLast.toNat ∨
  g ∈ (firstsBy (fun g : JobGroup => civilOfDays g.time.day) [] gs).take p.keepDaily.toNat ∨
  g ∈ (firstsBy (fun g : JobGroup => isoWeek g.time.day) [] gs).take p.keepWeekly.toNat ∨
  g ∈ (firstsBy (fun g : JobGroup => ((civilOfDays g.time.day).1, (civilOfDays g.time.day).2.1))
    [] gs).take p.keepMonthly.toNat

instance (gs : List JobGroup) (p : RetentionPolicy) : DecidablePred (WindowKept gs p) :=
  fun _ => inferInstanceAs (Decidable (_ ∨ _ ∨ _ ∨ _))

/-- A job id marked from a part of a list with one group per job id marks that group. -/
theorem jobID_mem_map_iff {gs part : List JobGroup} (hnd : (gs.map JobGroup.jobID).Nodup)
    (hpart : part ⊆ gs) {g : JobGroup} (hg : g ∈ gs) :
    g.jobID ∈ part.map JobGroup.jobID ↔ g ∈ part := by
  refine ⟨fun h => ?_, List.mem_map_of_mem _⟩
  obtain ⟨g', hg', heq⟩ := List.mem_map.1 h
  rwa [← List.inj_on_of_nodup_map hnd (hpart hg') hg heq]

/-- On the groups of `GroupByJob`, the keep-set holds the job id of exactly the groups the
windowed policy keeps. -/
theorem mem_keepSet_iff {snapshots : List Snapshot} {gs : List JobGroup}
    (hg : GroupByJob snapshots gs) (p : RetentionPolicy) {g : JobGroup} (hmem : g ∈ gs) :
    g.jobID ∈ keepSet gs p ↔ WindowKept gs p g := by
  have hlast : (if p.keepLast > 0 then (gs.take p.keepLast.toNat).map JobGroup.jobID else []) =
      (gs.take p.keepLast.toNat).map JobGroup.jobID := by
    split
    · rfl
    · rw [show p.keepLast.toNat = 0 by omega, List.take_zero, List.map_nil]
  have hmap := fun (part : List JobGroup) (h : part ⊆ gs) => jobID_mem_map_iff hg.wf.nodup h hmem
  have hf := fun {β : Type} [DecidableEq β] (spec : JobGroup → β) (b : Nat) =>
    ((List.take_subset b _).trans (firstsBy_subset spec [] gs))
  rw [keepSet, hlast, window_eq dateKey_window (fun _ _ => Time.dateKey_eq_iff) _ _ hg.sorted,
    window_eq weekKey_window (fun _ _ => Time.weekKey_eq_iff) _ _ hg.sorted,
    window_eq monthKey_window (fun _ _ => Time.monthKey_eq_iff) _ _ hg.sorted]
  simp only [List.mem_append, hmap _ (List.take_subset _ _), hmap _ (hf _ _), WindowKept,
    or_assoc]

/-- **Group-aware retention implements the windowed policy.**  For every order `GroupByJob` may
return and every policy that is not all zero, `ApplyGroupRetention` keeps exactly the groups the
windowed policy keeps and removes the others, both in the order of the groups. -/
theorem applyGroupRetention_windows (snapshots : List Snapshot) (gs : List JobGroup)
    (hg : GroupByJob snapshots gs) (p : RetentionPolicy)
    (hp : ¬(p.keepLast = 0 ∧ p.keepDaily = 0 ∧ p.keepWeekly = 0 ∧ p.keepMonthly = 0)) :
    applyGroupRetention gs p =
      (gs.filter fun g => decide (WindowKept gs p g), gs.filter fun g => !decide (WindowKept gs p g)) := by
  unfold applyGroupRetention
  split
  · next h => simp [h]
  · have hk : ∀ g ∈ gs, decide (g.jobID ∈ keepSet gs p) = decide (WindowKept gs p g) :=
      fun g hmem => decide_eq_decide.2 (mem_keepSet_iff hg p hmem)
    exact Prod.ext (List.filter_congr hk) (List.filter_congr fun g hmem => congrArg (!·) (hk g hmem))

/-- Both groups of `twoJobs` fall on 1970-01-01: one day kept keeps the newest group only. -/
theorem applyGroupRetention_windows_twoJobs :
    applyGroupRetention twoJobsGroups { keepDaily := 1 } =
      (twoJobsGroups.filter fun g => decide (WindowKept twoJobsGroups { keepDaily := 1 } g),
        twoJobsGroups.filter fun g => !decide (WindowKept twoJobsGroups { keepDaily := 1 } g)) :=
  applyGroupRetention_windows twoJobs twoJobsGroups twoJobs_groupByJob _ (by decide)

/-! ## `ForgetGrouped` -/

/-- A call `ForgetGrouped` makes to the archiver. -/
inductive ResticCall
  /-- `ForgetSnapshot(ctx, id)`: `restic forget <id>`. -/
  | forget (snapshotID : String)
  /-- `Prune(ctx)`. -/
  | prune
  deriving DecidableEq, Repr

/-- The archiver's answers: the error of each call, given the calls made before it. -/
abbrev Archiver := List ResticCall → ResticCall → Option String

/-- The calls made, each with the error it returned. -/
abbrev ResticTrace := List (ResticCall × Option String)

/-- The loop over the removed snapshots: forget each, counting, until one fails. -/
def forgetEach (a : Archiver) : List Snapshot → ResticTrace → Nat → ResticTrace × Nat × Option String
  | [], tr, n => (tr, n, none)
  | s :: ss, tr, n =>
    match a (tr.map (·.1)) (.forget s.id) with
    | some e => (tr ++ [(.forget s.id, some e)], n,
        some ("failed to forget snapshot " ++ s.shortID ++ ": " ++ e))
    | none => forgetEach a ss (tr ++ [(.forget s.id, none)]) (n + 1)

/-- What a run of `ForgetGrouped` returns, with the calls it made. -/
structure ForgetRun where
  trace : ResticTrace
  keepCount : Nat
  removeCount : Nat
  err : Option String
  deriving Repr

/-- `ForgetGrouped` once the snapshots are listed and `GroupByJob` has returned `groups`. -/
def forgetGroups (a : Archiver) (groups : List JobGroup) (policy : RetentionPolicy)
    (prune : Bool) : ForgetRun :=
  let r := applyGroupRetention groups policy
  let keepCount := (r.1.map fun g => g.snapshots.length).sum
  match forgetEach a (r.2.map JobGroup.snapshots).flatten [] 0 with
  | (tr, n, some e) => ⟨tr, keepCount, n, some e⟩
  | (tr, n, none) =>
    if prune && n > 0 then
      match a (tr.map (·.1)) .prune with
      | some e => ⟨tr ++ [(.prune, some e)], keepCount, n, some ("prune failed: " ++ e)⟩
      | none => ⟨tr ++ [(.prune, none)], keepCount, n, none⟩
    else ⟨tr, keepCount, n, none⟩

/-- `ForgetGrouped(ctx, tags, policy, prune)` may return `r`, given the archiver's answer to the
listing of the snapshots with `tags`. -/
def ForgetGrouped (a : Archiver) (listing : Except String (List Snapshot))
    (policy : RetentionPolicy) (prune : Bool) (r : ForgetRun) : Prop :=
  match listing with
  | .error e => r = ⟨[], 0, 0, some ("failed to list snapshots: " ++ e)⟩
  | .ok snapshots => ∃ gs, GroupByJob snapshots gs ∧ r = forgetGroups a gs policy prune

/-- The snapshot ids a trace forgets, in order. -/
def forgotten (tr : ResticTrace) : List String :=
  tr.filterMap fun
    | (.forget id, _) => some id
    | (.prune, _) => none

/-- No forget call of the trace returned an error. -/
def NoForgetFailed (tr : ResticTrace) : Prop := ∀ x ∈ tr, x.1 ≠ .prune → x.2 = none

instance (tr : ResticTrace) : Decidable (NoForgetFailed tr) :=
  inferInstanceAs (Decidable (∀ x ∈ tr, _))

@[simp] theorem forgotten_append (tr tr' : ResticTrace) :
    forgotten (tr ++ tr') = forgotten tr ++ forgotten tr' :=
  List.filterMap_append _ _ _

/-- The forget loop either forgets every snapshot, or forgets a prefix and fails on the next. -/
theorem forgetEach_spec (a : Archiver) : ∀ (ss : List Snapshot) (tr : ResticTrace) (n : Nat),
    forgetEach a ss tr n = (tr ++ ss.map (fun s => (.forget s.id, none)), n + ss.length, none) ∨
    ∃ pre s post e, ss = pre ++ s :: post ∧ forgetEach a ss tr n =
      (tr ++ pre.map (fun s => (.forget s.id, none)) ++ [(.forget s.id, some e)], n + pre.length,
        some ("failed to forget snapshot " ++ s.shortID ++ ": " ++ e))
  | [], tr, n => .inl (by simp [forgetEach])
  | s :: ss, tr, n => by
    rw [forgetEach]
    split
    · next e he => exact .inr ⟨[], s, ss, e, rfl, by simp⟩
    · rcases forgetEach_spec a ss (tr ++ [(.forget s.id, none)]) (n + 1) with h | ⟨pre, s', post, e, rfl, h⟩
      · exact .inl (by rw [h]; simp only [List.map_cons, List.length_cons, List.append_assoc,
          List.singleton_append, Prod.mk.injEq, true_and, and_true]; omega)
      · exact .inr ⟨s :: pre, s', post, e, rfl, by
          rw [h]; simp only [List.map_cons, List.length_cons, List.append_assoc,
            List.singleton_append, List.cons_append, List.nil_append, Prod.mk.injEq, true_and,
            and_true]
          omega⟩

@[simp] theorem forgotten_prune (e : Option String) : forgotten [(.prune, e)] = [] := rfl

theorem forgotten_map_forget (ss : List Snapshot) :
    forgotten (ss.map fun s => (.forget s.id, none)) = ss.map Snapshot.id := by
  induction ss with
  | nil => rfl
  | cons s ss ih => exact congrArg (s.id :: ·) ih

/-- `ForgetGrouped` forgets the removed snapshots in order and stops at the first forget that
fails; when none fails, it has forgotten every removed snapshot and counted every snapshot of the
groups as kept or removed. -/
theorem forgetGroups_forgets (a : Archiver) (groups : List JobGroup) (policy : RetentionPolicy)
    (prune : Bool) :
    let removed := ((applyGroupRetention groups policy).2.map JobGroup.snapshots).flatten
    let r := forgetGroups a groups policy prune
    (∃ k, forgotten r.trace = (removed.take k).map Snapshot.id) ∧
    (NoForgetFailed r.trace → forgotten r.trace = removed.map Snapshot.id ∧
      r.keepCount + r.removeCount = ((groups.map JobGroup.snapshots).flatten).length) := by
  intro removed r
  have hcount : ((applyGroupRetention groups policy).1.map fun g => g.snapshots.length).sum +
      removed.length = ((groups.map JobGroup.snapshots).flatten).length := by
    rw [← (((applyGroupRetention_perm groups policy).map JobGroup.snapshots).flatten).length_eq]
    simp only [removed, List.map_append, List.flatten_append, List.length_append,
      List.length_flatten, List.map_map, Function.comp_def]
  rcases forgetEach_spec a removed [] 0 with h | ⟨pre, s, post, e, hsplit, h⟩
  · have htr : forgotten r.trace = removed.map Snapshot.id := by
      simp only [r, forgetGroups, h]
      split <;> [split; skip] <;> simp only [forgotten_append, forgotten_map_forget,
        List.nil_append, forgotten_prune, List.append_nil]
    refine ⟨⟨removed.length, by rw [htr, List.take_length]⟩, fun _ => ⟨htr, ?_⟩⟩
    simp only [r, forgetGroups, h]
    split <;> [split; skip] <;> simpa using hcount
  · have htr : r.trace = (pre.map fun s => (.forget s.id, none)) ++ [(.forget s.id, some e)] := by
      simp only [r, forgetGroups, h, List.nil_append]
    refine ⟨⟨pre.length + 1, ?_⟩, fun hno => ?_⟩
    · rw [htr, hsplit, forgotten_append, forgotten_map_forget, List.take_append_eq_append_take,
      List.take_of_length_le (by omega), Nat.add_sub_cancel_left]
      simp [forgotten]
    · have := hno (.forget s.id, some e) (by rw [htr]; simp) (by simp)
      simp at this

/-- **Retention keeps job groups whole.**  For every order `GroupByJob` may return and every
policy: keep and remove hold every snapshot exactly once; two snapshots with one non-empty `job`
tag lie in one group, kept or removed; the all-zero policy removes nothing; and `ForgetGrouped`
forgets removed snapshots only, in order, up to the first forget that fails, and, when none
fails, all of them, with `keepCount + removeCount` the number of snapshots. -/
theorem forgetGrouped_keeps_groups_whole (a : Archiver) (snapshots : List Snapshot)
    (gs : List JobGroup) (hg : GroupByJob snapshots gs) (policy : RetentionPolicy)
    (prune : Bool) :
    let keep := (applyGroupRetention gs policy).1
    let remove := (applyGroupRetention gs policy).2
    let r := forgetGroups a gs policy prune
    ((keep ++ remove).map JobGroup.snapshots).flatten.Perm snapshots ∧
    (∀ s ∈ snapshots, ∀ s' ∈ snapshots, s.tag "job" ≠ "" → s.tag "job" = s'.tag "job" →
      (∃ g ∈ keep, s ∈ g.snapshots ∧ s' ∈ g.snapshots) ∨
        (∃ g ∈ remove, s ∈ g.snapshots ∧ s' ∈ g.snapshots)) ∧
    (policy = {} → remove = []) ∧
    (∃ k, forgotten r.trace = (((remove.map JobGroup.snapshots).flatten).take k).map Snapshot.id) ∧
    (NoForgetFailed r.trace →
      forgotten r.trace = (remove.map JobGroup.snapshots).flatten.map Snapshot.id ∧
        r.keepCount + r.removeCount = snapshots.length) := by
  intro keep remove r
  have hsplit := applyGroupRetention_perm gs policy
  have hperm := ((hsplit.map JobGroup.snapshots).flatten).trans hg.flatten_perm
  have hmem : ∀ s ∈ snapshots, ∃ g ∈ keep ++ remove, s ∈ g.snapshots := fun s hs => by
    simpa only [List.mem_flatten, List.mem_map, exists_exists_and_eq_and] using hperm.mem_iff.2 hs
  obtain ⟨hforgets, hcount⟩ := forgetGroups_forgets a gs policy prune
  refine ⟨hperm, fun s hs s' hs' hne heq => ?_, fun h => ?_, hforgets,
    fun hno => ⟨(hcount hno).1, (hcount hno).2.trans hg.flatten_perm.length_eq⟩⟩
  · obtain ⟨g, hg₁, hs₁⟩ := hmem s hs
    obtain ⟨g', hg₂, hs₂⟩ := hmem s' hs'
    have hid : s.jobID = s'.jobID := by
      rw [Snapshot.jobID_of_tag hne, Snapshot.jobID_of_tag (heq ▸ hne), heq]
    obtain rfl := hg.wf.same_group (hsplit.mem_iff.1 hg₁) (hsplit.mem_iff.1 hg₂) hs₁ hs₂ hid
    rcases List.mem_append.1 hg₁ with hk | hr
    · exact .inl ⟨g, hk, hs₁, hs₂⟩
    · exact .inr ⟨g, hr, hs₁, hs₂⟩
  · subst h
    simp only [remove, applyGroupRetention]
    split_ifs with h0 hz
    · rfl
    · rfl
    · exact absurd ⟨trivial, trivial, trivial, trivial⟩ hz

/-- With `keepLast = 1` the group of `j1` is removed; when the archiver refuses the first forget,
`ForgetGrouped` stops there, and `a2`, a snapshot of that removed group, is never forgotten. -/
theorem forgetGrouped_stops_on_failed_forget :
    GroupByJob twoJobs twoJobsGroups ∧
      ((applyGroupRetention twoJobsGroups { keepLast := 1 }).2.map JobGroup.snapshots).flatten.map
        Snapshot.id = ["a1", "a2"] ∧
      forgotten (forgetGroups (fun _ _ => some "unable to create lock") twoJobsGroups
        { keepLast := 1 } false).trace = ["a1"] :=
  ⟨twoJobs_groupByJob, by decide, by decide⟩

theorem forgetGrouped_keeps_groups_whole_twoJobs :
    GroupByJob twoJobs twoJobsGroups ∧
      (forgetGroups (fun _ _ => none) twoJobsGroups { keepLast := 1 } true).keepCount +
        (forgetGroups (fun _ _ => none) twoJobsGroups { keepLast := 1 } true).removeCount =
          twoJobs.length :=
  ⟨twoJobs_groupByJob, ((forgetGrouped_keeps_groups_whole (fun _ _ => none) twoJobs twoJobsGroups
    twoJobs_groupByJob { keepLast := 1 } true).2.2.2.2 (by decide)).2⟩

end Restic
end Hasteward
