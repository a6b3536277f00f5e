import Hasteward.Restic.Tags

/-!
# The prune command

`hasteward prune` applies a retention policy to a cluster's snapshots.  After checking its flags
it runs up to two passes over the repository: for `type=backup` snapshots the archiver's own
`forget` with the policy (`Forget`), and for `type=diverged` captures the group-aware retention of
`Hasteward.Restic.Retention` (`ForgetGrouped`), each under the tag filter of the cluster and the
type.  `--type backup` runs the first, `diverged` the second, `all` both, in that order.

What the repository answers is a `Repository`: the error or the groups of a `restic forget`, the
error or the snapshots of a listing, and the answers to `ForgetGrouped`'s own calls.  The calls
the command makes come back in order (`PruneRun.calls`), so that a theorem about them holds for
every answer and every path.

* `pruneCmd_prunes`: the repository is pruned at most once, and exactly on these paths: with
  `--type backup` always, since the `forget` carries `--prune`; otherwise only when the diverged
  pass has listed its captures, removed at least one and forgotten every one it removed.  So with
  `--type all` the backup pass runs `forget` without `--prune`, and the data of the backups it
  forgets stays in the repository unless a diverged capture is removed in the same run.
* `pruneCmd_passes_disjoint`: no snapshot the code writes is selected by both passes' filters,
  whatever the order of the tag maps: the standard policy never applies to a diverged capture,
  nor the group retention to a backup.

The `%q` of the type in the error message is `quote`, which escapes as Go does on ASCII text and
keeps other characters as they are; Go also escapes the non-printable ones among those.
-/

set_option autoImplicit false

namespace Hasteward
namespace Restic

/-! ## The command -/

/-- The flags of `hasteward prune`, with their defaults. -/
structure PruneFlags where
  keepLast : Int := 7
  keepDaily : Int := 30
  keepWeekly : Int := 12
  keepMonthly : Int := 24
  pruneType : String := "backup"
  deriving DecidableEq, Repr

/-- The policy the flags give. -/
def PruneFlags.policy (f : PruneFlags) : RetentionPolicy :=
  ⟨f.keepLast, f.keepDaily, f.keepWeekly, f.keepMonthly⟩

/-- One character of `strconv.Quote` on ASCII text. -/
def quoteChar (c : Char) : List Char :=
  if c = '"' then ['\\', '"']
  else if c = '\\' then ['\\', '\\']
  else if c = '\x07' then ['\\', 'a']
  else if c = '\x08' then ['\\', 'b']
  else if c = '\x0c' then ['\\', 'f']
  else if c = '\n' then ['\\', 'n']
  else if c = '\r' then ['\\', 'r']
  else if c = '\t' then ['\\', 't']
  else if c = '\x0b' then ['\\', 'v']
  else if c.toNat < 32 ∨ c.toNat = 127 then
    ['\\', 'x', Nat.digitChar (c.toNat / 16), Nat.digitChar (c.toNat % 16)]
  else [c]

/-- `fmt`'s `%q` of a string. -/
def quote (s : String) : String := ⟨'"' :: s.data.flatMap quoteChar ++ ['"']⟩

example : quote "a\"b\x1b" = "\"a\\\"b\\x1b\"" := by decide

/-- The command's checks, in order: the error of the first that fails. -/
def pruneCheck (cfg : Config) (engine type : String) : Option String :=
  if cfg.backupsPath = "" then some "prune requires --backups-path"
  else if cfg.resticPassword = "" then some "prune requires RESTIC_PASSWORD env var"
  else if engine = "" then some "prune requires --engine/-e"
  else if cfg.clusterName = "" then some "prune requires --cluster/-c"
  else if cfg.ns = "" then some "prune requires --namespace/-n"
  else if type = "backup" ∨ type = "diverged" ∨ type = "all" then none
  else some ("--type must be backup, diverged, or all (got " ++ quote type ++ ")")

/-- The tag map of a pass: `copyTags(baseTags)` with `type` set. -/
def passTags (engine : String) (cfg : Config) (type : String) : List (String × String) :=
  insertTag [("engine", engine), ("cluster", cfg.clusterName), ("namespace", cfg.ns)] ("type", type)

/-- The order in which `BuildTagFilter` visits a tag map. -/
structure TagOrder where
  perm : List (String × String) → List (String × String)
  perm_spec : ∀ l, (perm l).Perm l

/-- The arguments `Forget(ctx, tags, policy, prune)` runs `restic` with, the tag map visited in the
order `order`. -/
def forgetArgs (order : List (String × String)) (policy : RetentionPolicy) (prune : Bool) :
    List String :=
  ["forget", "--json"] ++ forgetKeepFlags policy ++ buildTagFilter order ++
    if prune then ["--prune"] else []

/-- The arguments of `Snapshots(ctx, tags)`. -/
def snapshotsArgs (order : List (String × String)) : List String :=
  ["snapshots", "--json"] ++ buildTagFilter order

/-- A group of `restic forget`'s answer, as far as the command reads it. -/
structure ForgetResult where
  keep : List Snapshot
  remove : List Snapshot

/-- What the repository answers the command. -/
structure Repository where
  /-- `Forget` with these arguments: its error, or the groups `restic forget --json` reports. -/
  forget : List String → Except String (List ForgetResult)
  /-- `Snapshots` with these arguments: its error, or the snapshots. -/
  snapshots : List String → Except String (List Snapshot)
  /-- The answers to the calls `ForgetGrouped` makes once it has the snapshots. -/
  archiver : Archiver

/-- A call the command makes. -/
inductive PruneCall
  | forget (order : List (String × String)) (policy : RetentionPolicy) (prune : Bool)
  | snapshots (order : List (String × String))
  | grouped (c : ResticCall)

/-- Whether the call asks the archiver to prune the repository. -/
def PruneCall.prunes : PruneCall → Bool
  | .forget _ _ prune => prune
  | .snapshots _ => false
  | .grouped c => c == .prune

/-- The calls a run made, and its error or the counts it prints, removed and kept. -/
structure PruneRun where
  calls : List PruneCall
  result : Except String (Nat × Nat)

/-- `ForgetGrouped(ctx, tags, policy, prune)`, `GroupByJob`'s order among equal times given by
`groups`. -/
def forgetGroupedRun (a : Archiver) (listing : Except String (List Snapshot))
    (groups : List Snapshot → List JobGroup) (policy : RetentionPolicy) (prune : Bool) :
    ForgetRun :=
  match listing with
  | .error e => ⟨[], 0, 0, some ("failed to list snapshots: " ++ e)⟩
  | .ok snapshots => forgetGroups a (groups snapshots) policy prune

/-- The backup pass: `Forget`, and the sums over its groups. -/
def backupPass (repo : Repository) (order : List (String × String)) (policy : RetentionPolicy)
    (prune : Bool) : PruneRun :=
  ⟨[.forget order policy prune], match repo.forget (forgetArgs order policy prune) with
    | .error e => .error ("prune (backup) failed: " ++ e)
    | .ok results =>
      .ok ((results.map fun r => r.remove.length).sum, (results.map fun r => r.keep.length).sum)⟩

/-- The diverged pass: `ForgetGrouped` with `prune` set. -/
def divergedPass (repo : Repository) (order : List (String × String))
    (groups : List Snapshot → List JobGroup) (policy : RetentionPolicy) : PruneRun :=
  let r := forgetGroupedRun repo.archiver (repo.snapshots (snapshotsArgs order)) groups policy true
  ⟨.snapshots order :: r.trace.map (.grouped ·.1), match r.err with
    | some e => .error ("prune (diverged) failed: " ++ e)
    | none => .ok (r.removeCount, r.keepCount)⟩

/-- A pass after another: it runs when the first succeeded, and the counts add up. -/
def PruneRun.andThen (r next : PruneRun) : PruneRun :=
  match r.result with
  | .error _ => r
  | .ok (removed, kept) =>
    ⟨r.calls ++ next.calls, next.result.map fun (m, k) => (removed + m, kept + k)⟩

/-- A pass that does not run. -/
def PruneRun.skip : PruneRun := ⟨[], .ok (0, 0)⟩

/-- `pruneCmd`'s `RunE`: the checks, then the passes `--type` selects. -/
def pruneCmd (cfg : Config) (engine : String) (flags : PruneFlags) (repo : Repository)
    (order : TagOrder) (groups : List Snapshot → List JobGroup) : PruneRun :=
  match pruneCheck cfg engine flags.pruneType with
  | some e => ⟨[], .error e⟩
  | none =>
    let backup := if flags.pruneType = "backup" ∨ flags.pruneType = "all" then
        backupPass repo (order.perm (passTags engine cfg "backup")) flags.policy
          (flags.pruneType = "backup")
      else .skip
    let diverged := if flags.pruneType = "diverged" ∨ flags.pruneType = "all" then
        divergedPass repo (order.perm (passTags engine cfg "diverged")) groups flags.policy
      else .skip
    backup.andThen diverged

/-- The run of `ForgetGrouped` is one the relation `ForgetGrouped` allows, when `groups` sorts as
`GroupByJob` does. -/
theorem forgetGrouped_forgetGroupedRun (a : Archiver) (listing : Except String (List Snapshot))
    {groups : List Snapshot → List JobGroup} (hg : ∀ s, GroupByJob s (groups s))
    (policy : RetentionPolicy) (prune : Bool) :
    ForgetGrouped a listing policy prune (forgetGroupedRun a listing groups policy prune) := by
  cases listing with
  | error e => rfl
  | ok snapshots => exact ⟨groups snapshots, hg snapshots, rfl⟩

/-! ## When the repository is pruned -/

/-- The snapshots retention removes from the groups. -/
def removedSnapshots (groups : List JobGroup) (policy : RetentionPolicy) : List Snapshot :=
  ((applyGroupRetention groups policy).2.map JobGroup.snapshots).flatten

/-- The checks pass exactly when every flag they read is set and the type is one of the three. -/
theorem pruneCheck_eq_none (cfg : Config) (engine type : String) :
    pruneCheck cfg engine type = none ↔ cfg.backupsPath ≠ "" ∧ cfg.resticPassword ≠ "" ∧
      engine ≠ "" ∧ cfg.clusterName ≠ "" ∧ cfg.ns ≠ "" ∧
        (type = "backup" ∨ type = "diverged" ∨ type = "all") := by
  unfold pruneCheck
  split_ifs <;> simp_all

/-- The forget loop asks for no prune. -/
theorem forgetCalls_not_prune (ss : List Snapshot) (tail : ResticTrace)
    (ht : ∀ x ∈ tail, x.1 ≠ .prune) :
    ∀ x ∈ ss.map (fun s => ((ResticCall.forget s.id, none) : ResticCall × Option String)) ++ tail,
      x.1 ≠ .prune := by
  intro x hx
  rcases List.mem_append.1 hx with hx | hx
  · obtain ⟨s, -, rfl⟩ := List.mem_map.1 hx
    exact ResticCall.noConfusion
  · exact ht x hx

/-- `ForgetGrouped` asks for a prune at most once, and does so exactly when `prune` is set, it
removed a snapshot, and no forget failed. -/
theorem forgetGroups_prune (a : Archiver) (gs : List JobGroup) (policy : RetentionPolicy)
    (prune : Bool) :
    let tr := (forgetGroups a gs policy prune).trace
    (tr.filter (·.1 == .prune)).length ≤ 1 ∧
      (tr.any (·.1 == .prune) ↔
        prune = true ∧ removedSnapshots gs policy ≠ [] ∧ NoForgetFailed tr) := by
  intro tr
  -- a trace without a prune call
  have hnp : ∀ l : ResticTrace, (∀ x ∈ l, x.1 ≠ .prune) →
      l.filter (·.1 == .prune) = [] ∧ l.any (·.1 == .prune) = false := fun l hl =>
    ⟨List.filter_eq_nil_iff.2 fun x hx => by simpa using hl x hx,
      List.any_eq_false.2 fun x hx => by simpa using hl x hx⟩
  have hr : ((applyGroupRetention gs policy).2.map JobGroup.snapshots).flatten =
      removedSnapshots gs policy := rfl
  rcases forgetEach_spec a (removedSnapshots gs policy) [] 0 with h | ⟨pre, s, post, e, -, h⟩
  · -- every forget succeeded: the prune call is made when `prune` is set and one was removed
    simp only [List.nil_append, Nat.zero_add] at h
    let forgets : ResticTrace := (removedSnapshots gs policy).map fun s => (.forget s.id, none)
    have hf := hnp forgets fun x hx =>
      forgetCalls_not_prune _ [] (by simp) x ((List.append_nil forgets).symm ▸ hx)
    have hok : ∀ x, NoForgetFailed (forgets ++ [(.prune, x)]) := fun x y hy hy' => by
      rcases List.mem_append.1 hy with hy | hy
      · obtain ⟨s, -, rfl⟩ := List.mem_map.1 hy; rfl
      · exact absurd (congrArg Prod.fst (List.mem_singleton.1 hy)) hy'
    simp only [tr, forgetGroups, hr, h]
    by_cases hp : prune = true ∧ removedSnapshots gs policy ≠ []
    · have hn : (prune && decide ((removedSnapshots gs policy).length > 0)) = true := by
        simpa [List.length_pos] using hp
      rw [if_pos hn]
      split <;> simp only [List.filter_append, List.any_append, hf.1, hf.2] <;>
        simpa [hp] using hok _
    · have hn : (prune && decide ((removedSnapshots gs policy).length > 0)) = false := by
        simpa [List.length_pos] using hp
      rw [if_neg (by simp [hn]), hf.1, hf.2]
      exact ⟨Nat.zero_le _, by simpa using fun h₁ h₂ _ => hp ⟨h₁, h₂⟩⟩
  · -- a forget failed: the loop stopped there, and no prune call is made
    have htr : tr = pre.map (fun s => (.forget s.id, none)) ++ [(.forget s.id, some e)] := by
      simp only [tr, forgetGroups, hr, h, List.nil_append]
    have hf := hnp tr (htr ▸ forgetCalls_not_prune pre _ (by simp))
    refine ⟨by rw [hf.1]; exact Nat.zero_le _, ?_⟩
    rw [hf.2]
    simp only [Bool.false_eq_true, false_iff, not_and]
    exact fun _ _ hno => absurd (hno (.forget s.id, some e) (by rw [htr]; simp) (by simp)) (by simp)

/-- The diverged pass asks for a prune at most once, and does so exactly when the listing
succeeded, retention removed a snapshot, and every forget succeeded. -/
theorem divergedPass_prunes (repo : Repository) (order : List (String × String))
    (groups : List Snapshot → List JobGroup) (policy : RetentionPolicy) :
    let calls := (divergedPass repo order groups policy).calls
    (calls.filter PruneCall.prunes).length ≤ 1 ∧
      (calls.any PruneCall.prunes ↔ ∃ snapshots, repo.snapshots (snapshotsArgs order) = .ok snapshots ∧
        removedSnapshots (groups snapshots) policy ≠ [] ∧
          NoForgetFailed (forgetGroups repo.archiver (groups snapshots) policy true).trace) := by
  intro calls
  have hc : ∀ tr : ResticTrace, (PruneCall.snapshots order :: tr.map (.grouped ·.1)).filter
      PruneCall.prunes = (tr.filter (·.1 == .prune)).map (.grouped ·.1) ∧
      (PruneCall.snapshots order :: tr.map (.grouped ·.1)).any PruneCall.prunes =
        tr.any (·.1 == .prune) := fun tr =>
    ⟨by simp [List.filter_map, Function.comp_def, PruneCall.prunes],
      by induction tr <;> simp_all [PruneCall.prunes]⟩
  simp only [calls, divergedPass, forgetGroupedRun]
  split
  · next e he => simp [PruneCall.prunes, he]
  · next snapshots he =>
    obtain ⟨h₁, h₂⟩ := forgetGroups_prune repo.archiver (groups snapshots) policy true
    rw [(hc _).1, (hc _).2, List.length_map]
    exact ⟨h₁, h₂.trans (by simp [he])⟩

/-- The calls of a pass after another: the first's, then the second's when the first succeeded. -/
theorem PruneRun.andThen_calls (r next : PruneRun) :
    (r.andThen next).calls = r.calls ++ match r.result with
      | .error _ => []
      | .ok _ => next.calls := by
  unfold andThen
  split <;> simp_all

/-- **When the repository is pruned.**  For every configuration, flags, answer of the repository
and order of the tag maps, the command asks the archiver to prune at most once, and does so
exactly when the checks pass and either the type is `backup`, whose `forget` carries `--prune`, or
the diverged pass runs (with `all`, once the backup pass succeeded), lists its captures, removes at
least one and forgets every one it removed. -/
theorem pruneCmd_prunes (cfg : Config) (engine : String) (flags : PruneFlags)
    (repo : Repository) (order : TagOrder) (groups : List Snapshot → List JobGroup) :
    let calls := (pruneCmd cfg engine flags repo order groups).calls
    let backupOrder := order.perm (passTags engine cfg "backup")
    let divergedOrder := order.perm (passTags engine cfg "diverged")
    (calls.filter PruneCall.prunes).length ≤ 1 ∧
      (calls.any PruneCall.prunes ↔ pruneCheck cfg engine flags.pruneType = none ∧
        (flags.pruneType = "backup" ∨
          (flags.pruneType = "diverged" ∨ flags.pruneType = "all" ∧
              ∃ rs, repo.forget (forgetArgs backupOrder flags.policy false) = .ok rs) ∧
            ∃ snapshots, repo.snapshots (snapshotsArgs divergedOrder) = .ok snapshots ∧
              removedSnapshots (groups snapshots) flags.policy ≠ [] ∧
                NoForgetFailed
                  (forgetGroups repo.archiver (groups snapshots) flags.policy true).trace)) := by
  intro calls backupOrder divergedOrder
  obtain ⟨hd₁, hd₂⟩ := divergedPass_prunes repo divergedOrder groups flags.policy
  simp only [calls, backupOrder, divergedOrder, pruneCmd] at hd₁ hd₂ ⊢
  split
  · next e hc => simp [hc]
  · next hc =>
    obtain ⟨-, -, -, -, -, ht⟩ := (pruneCheck_eq_none cfg engine flags.pruneType).1 hc
    rcases ht with ht | ht | ht <;> rw [ht] at hc <;> simp only [ht, hc, PruneRun.andThen_calls] <;>
      simp only [true_or, or_true, if_true, String.reduceEq, if_false, decide_True, decide_False,
        or_self, false_or, false_and, and_true, true_and] <;>
      generalize (divergedPass repo (order.perm (passTags engine cfg "diverged")) groups
        flags.policy).calls = dc at hd₁ hd₂ ⊢
    · -- `backup`: one `forget --prune`, whatever it answers
      cases hf : repo.forget (forgetArgs (order.perm (passTags engine cfg "backup")) flags.policy
        true) <;> simp [backupPass, hf, PruneCall.prunes, PruneRun.skip]
    · -- `diverged`: the diverged pass alone
      exact ⟨hd₁, hd₂⟩
    · -- `all`: `forget` without `--prune`, then the diverged pass once it succeeded
      cases hf : repo.forget (forgetArgs (order.perm (passTags engine cfg "backup")) flags.policy
        false) <;> simp only [backupPass, hf]
      · simp [PruneCall.prunes]
      · simpa [PruneCall.prunes] using And.intro hd₁ hd₂

/-- With `--type all`, a backup pass that forgets a snapshot and a diverged pass with nothing to
remove ask for no prune. -/
example : (pruneCmd
      { clusterName := "pg", ns := "db", backupsPath := "/backups", resticPassword := "pw" }
      "cnpg" { pruneType := "all" }
    ⟨fun _ => .ok [⟨[], [⟨"a1", "a1", ⟨0⟩, []⟩]⟩], fun _ => .ok [], fun _ _ => none⟩
    ⟨id, List.Perm.refl⟩ fun _ => []).calls.any PruneCall.prunes = false := by decide

/-! ## The passes select apart -/

/-- The decimal text of an integer is made of `-` and digits. -/
theorem mem_toString_int (i : Int) :
    ∀ c ∈ (toString i).data, c = '-' ∨ ∃ k < 10, c = Nat.digitChar k := by
  have hd : ∀ n, ∀ c ∈ Nat.toDigits 10 n, c = '-' ∨ ∃ k < 10, c = Nat.digitChar k :=
    fun n c hc => (mem_toDigitsCore _ _ [] c hc).resolve_left (List.not_mem_nil c) |> .inr
  cases i with
  | ofNat m => exact hd m
  | negSucc m =>
    intro c hc
    change c ∈ '-' :: Nat.toDigits 10 (m + 1) at hc
    rcases List.mem_cons.1 hc with rfl | hc
    · exact .inl rfl
    · exact hd _ c hc

theorem tag_not_mem_forgetKeepFlags (policy : RetentionPolicy) :
    "--tag" ∉ forgetKeepFlags policy := by
  have hn : ∀ i : Int, "--tag" ≠ toString i := fun i h => by
    rcases mem_toString_int i 't' (by rw [← h]; decide) with h | ⟨k, hk, h⟩
    · cases h
    · exact (by decide : ∀ k < 10, 't' ≠ Nat.digitChar k) k hk h
  simp only [forgetKeepFlags, keepFlag]
  split_ifs <;> simp [hn]

/-- Arguments without a `--tag` before the tag filter leave the groups it asks for alone. -/
theorem tagArgs_append_of_not_mem : ∀ {xs : List String} (ys : List String), "--tag" ∉ xs →
    tagArgs (xs ++ ys) = tagArgs ys
  | [], _, _ => rfl
  | x :: xs, ys, h => by
    rw [List.cons_append, tagArgs.eq_2 x _ fun _ _ hx _ => h (hx ▸ List.mem_cons_self _ _)]
    exact tagArgs_append_of_not_mem ys (List.not_mem_of_not_mem_cons h)

theorem tagArgs_buildTagFilter_append (order : List (String × String)) (rest : List String)
    (h : "--tag" ∉ rest) :
    tagArgs (buildTagFilter order ++ rest) = tagArgs (buildTagFilter order) := by
  unfold buildTagFilter
  split_ifs
  · simpa using tagArgs_append_of_not_mem [] h
  · simp only [List.cons_append, List.nil_append, tagArgs.eq_1]
    simpa using tagArgs_append_of_not_mem [] h

/-- `restic forget` reads the tag filter of `Forget`'s arguments, and the listing that of its own. -/
theorem selects_forgetArgs (order : List (String × String)) (policy : RetentionPolicy)
    (prune : Bool) (tags : List String) :
    selects (forgetArgs order policy prune) tags = selects (buildTagFilter order) tags := by
  have hp : "--tag" ∉ (if prune then ["--prune"] else []) := by split_ifs <;> simp
  unfold selects forgetArgs
  rw [List.append_assoc, List.append_assoc,
    tagArgs_append_of_not_mem _ (by simp [tag_not_mem_forgetKeepFlags policy]),
    tagArgs_append_of_not_mem _ (tag_not_mem_forgetKeepFlags policy),
    tagArgs_buildTagFilter_append _ _ hp]

theorem selects_snapshotsArgs (order : List (String × String)) (tags : List String) :
    selects (snapshotsArgs order) tags = selects (buildTagFilter order) tags := by
  unfold selects snapshotsArgs
  rw [tagArgs_append_of_not_mem _ (by simp)]

theorem passTags_eq (engine : String) (cfg : Config) (type : String) :
    passTags engine cfg type =
      [("engine", engine), ("cluster", cfg.clusterName), ("namespace", cfg.ns), ("type", type)] := by
  simp [passTags, insertTag]

/-- The tag map of a pass is one the encoding keeps apart when its values hold no comma. -/
theorem passTags_ok {engine : String} {cfg : Config} {type : String}
    (h : ',' ∉ engine.data ∧ ',' ∉ cfg.clusterName.data ∧ ',' ∉ cfg.ns.data ∧ ',' ∉ type.data) :
    TagsOK (passTags engine cfg type) := by
  rw [passTags_eq]
  refine ⟨by simp, ?_⟩
  simp only [List.mem_cons, List.mem_singleton, List.not_mem_nil, or_false]
  rintro kv (rfl | rfl | rfl | rfl) <;> dsimp only <;>
    exact ⟨by decide, by decide, by decide, by simp [h]⟩

/-- **The passes select apart.**  Whatever the order of the tag maps, no snapshot written with a
tag map the encoding keeps apart is selected both by the backup pass's `restic forget` and by the
diverged pass's listing: the standard policy never reaches a diverged capture, nor the group
retention a backup. -/
theorem pruneCmd_passes_disjoint (cfg : Config) (engine : String) (flags : PruneFlags)
    (order : TagOrder) (h : ',' ∉ engine.data ∧ ',' ∉ cfg.clusterName.data ∧ ',' ∉ cfg.ns.data)
    {ml : List (String × String)} (hml : TagsOK ml) :
    ¬(selects (forgetArgs (order.perm (passTags engine cfg "backup")) flags.policy
          (flags.pruneType = "backup")) (writtenTags (buildTagArgs ml)) = true ∧
      selects (snapshotsArgs (order.perm (passTags engine cfg "diverged")))
          (writtenTags (buildTagArgs ml)) = true) := by
  have hok : ∀ type, ',' ∉ type.data → TagsOK (order.perm (passTags engine cfg type)) :=
    fun type ht => (passTags_ok ⟨h.1, h.2.1, h.2.2, ht⟩).perm (order.perm_spec _)
  have htype : ∀ type, ',' ∉ type.data →
      selects (buildTagFilter (order.perm (passTags engine cfg type)))
        (writtenTags (buildTagArgs ml)) = true → ("type", type) ∈ ml := fun type ht hs => by
    rw [selects_buildTagFilter hml (hok type ht) "" ⟨0⟩, Stored.matches, List.all_eq_true] at hs
    exact of_decide_eq_true (hs _ ((order.perm_spec _).mem_iff.2 (by simp [passTags_eq])))
  rintro ⟨hb, hd⟩
  rw [selects_forgetArgs] at hb
  rw [selects_snapshotsArgs] at hd
  have h₁ := (mem_iff_lookup hml.1).1 (htype "backup" (by decide) hb)
  have h₂ := (mem_iff_lookup hml.1).1 (htype "diverged" (by decide) hd)
  rw [h₁] at h₂
  exact absurd (Option.some.inj h₂) (by decide)

/-- The cluster `pg` of `db` and a diverged capture of it. -/
theorem pruneCmd_passes_disjoint_capture :
    (',' ∉ "cnpg".data ∧ ',' ∉ "pg".data ∧ ',' ∉ "db".data) ∧
      TagsOK [("engine", "cnpg"), ("cluster", "pg"), ("namespace", "db"), ("type", "diverged"),
        ("job", "20240701T120000Z")] ∧
      ¬(selects (forgetArgs ((⟨id, List.Perm.refl⟩ : TagOrder).perm
            (passTags "cnpg" { clusterName := "pg", ns := "db" } "backup")) ({} : PruneFlags).policy
            (({} : PruneFlags).pruneType = "backup"))
          (writtenTags (buildTagArgs [("engine", "cnpg"), ("cluster", "pg"), ("namespace", "db"),
            ("type", "diverged"), ("job", "20240701T120000Z")])) = true ∧
        selects (snapshotsArgs ((⟨id, List.Perm.refl⟩ : TagOrder).perm
            (passTags "cnpg" { clusterName := "pg", ns := "db" } "diverged")))
          (writtenTags (buildTagArgs [("engine", "cnpg"), ("cluster", "pg"), ("namespace", "db"),
            ("type", "diverged"), ("job", "20240701T120000Z")])) = true) :=
  ⟨by decide, by decide, pruneCmd_passes_disjoint { clusterName := "pg", ns := "db" } "cnpg" {}
    ⟨id, List.Perm.refl⟩ (by decide) (by decide)⟩

end Restic
end Hasteward
