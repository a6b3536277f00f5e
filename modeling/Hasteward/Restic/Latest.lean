import Hasteward.Engine

/-!
# What a restore of `latest` reads

`restoreDump` without `--snapshot` asks the archiver for `latest` among the snapshots tagged
with the cluster's `engine`, `cluster` and `namespace` (`dumpRequest`), and for the file
`<ns>/<cluster>/<dumpFile>` in it.  The archiver's `latest` is taken as the spec describes it: a
snapshot with the largest `--time` among those carrying every filter tag, with ties broken as the
archiver likes (`IsLatest`).

The repository holds what the code writes (`CodeWrite`): the snapshot of `Backup()`, from the
CLI or a scheduled job, and that of every `BackupDump` of a repair run, escrow or diverged
capture, of either engine and for any cluster.  A diverged capture carries the cluster's three
tags too, and the restore's filter has no `type` tag.

The README's snapshot types make the diverged captures forensic records, read with `--snapshot`
and `-i`, and its "Restore from Latest Snapshot" restores the latest backup; nothing in the
restore's filter keeps a capture out.

* `restore_latest_galera_diverged`: after the repair of spec scenario 6 the escrow and the three
  diverged captures share the repair's start, and `latest` may be a `type=diverged` capture at
  `db/g/0-mysqldump.sql`.
* `restore_latest_cnpg`: every snapshot the code writes under a CNPG cluster's tags is a
  `type=backup` dump at `<ns>/<cluster>/pgdumpall.sql`, so `latest` reads a full-cluster dump.
  This holds only because a CNPG repair never captures (`Cnpg.repair_dumps`): triage never sets
  `IsRunning`, so the capture phase skips every instance.
-/

set_option autoImplicit false

namespace Hasteward

/-! ## The repository and `latest` -/

/-- A snapshot as the archiver keeps it: its tags, the path of its `--stdin-filename`, and its
`--time`. -/
structure Stored where
  tags : List (String × String)
  path : String
  time : Time
  deriving DecidableEq, Repr

/-- `tags[k] = v` on a tag map. -/
def insertTag (tags : List (String × String)) (kv : String × String) : List (String × String) :=
  tags.filter (·.1 != kv.1) ++ [kv]

/-- The snapshot `BackupStdin` commits for a `BackupDump` of the engine named `engine` on `cfg`'s
cluster: the tags `engine`, `cluster`, `namespace` and `type` with the extra tags set over them,
the stdin filename, and the job time.  A call that is not a dump commits nothing. -/
def Call.stored (engine : String) (cfg : Config) : Call → Option Stored
  | .backupDump backupType _ stdinFilename jobTime extraTags => some
    { tags := extraTags.foldl insertTag
        [("engine", engine), ("cluster", cfg.clusterName), ("namespace", cfg.ns), ("type", backupType)]
      path := stdinFilename
      time := jobTime }
  | _ => none

/-- Whether a snapshot carries every tag of a filter: `--tag k=v,...` is a conjunction. -/
def Stored.matches (filter : List (String × String)) (s : Stored) : Bool :=
  filter.all (· ∈ s.tags)

/-- The archiver's `latest` under a tag filter: one of the most recent matching snapshots. -/
def IsLatest (repo : List Stored) (filter : List (String × String)) (s : Stored) : Prop :=
  s ∈ repo ∧ s.matches filter = true ∧
    ∀ s' ∈ repo, s'.matches filter = true → s'.time.unix ≤ s.time.unix

instance (repo : List Stored) (filter : List (String × String)) (s : Stored) :
    Decidable (IsLatest repo filter s) :=
  inferInstanceAs (Decidable (_ ∧ _ ∧ _))

/-! ## What the code writes -/

namespace Engine

/-- `DumpFilename`. -/
def dumpFilename : Engine → String
  | .cnpg .. => Cnpg.dumpFilename
  | .galera .. => Galera.dumpFilename

/-- `Backup(ctx)` at `now`: a `type=backup` dump at `<ns>/<cluster>/<dumpFile>`, of the primary
for CNPG and, for Galera, of a donor `BackupDump` finds itself. -/
def backupCall (cfg : Config) (now : Time) : Engine → Call
  | .cnpg cl _ =>
    .backupDump "backup" cl.currentPrimary (cfg.ns ++ "/" ++ cfg.clusterName ++ "/" ++ Cnpg.dumpFilename) now []
  | .galera .. =>
    .backupDump "backup" "" (cfg.ns ++ "/" ++ cfg.clusterName ++ "/" ++ Galera.dumpFilename) now []

/-- Every dump of a repair run is the escrow dump of a donor, or the diverged capture of one of
triage's assessments; for CNPG only the escrow. -/
theorem repair_dumps (p : Platform) (cfg : Config) (start : Time) (e : Engine) {c : Call}
    (hc : c ∈ (e.repair p cfg start).1.calls) (hh : c.isHeal = false) :
    (∃ donor, c = Repair.escrowCall cfg e.dumpFilename donor start) ∨
      (e.name = "galera" ∧ ∃ a, c = Repair.divergedCall cfg e.dumpFilename start a) := by
  cases e with
  | cnpg cl data => exact .inl ⟨_, Cnpg.repair_dumps p cfg start cl data hc hh⟩
  | galera mdb data =>
    rcases Galera.repair_dumps p cfg start mdb data hc hh with h | ⟨a, -, h⟩
    · exact .inl h
    · exact .inr ⟨rfl, a, h⟩

end Engine

/-- A snapshot the code can write to a repository: that of `Backup()`, or of a `BackupDump` of a
repair run, of either engine, on any cluster, platform and time. -/
inductive CodeWrite : Stored → Prop
  | backup (e : Engine) (cfg : Config) (now : Time) {s : Stored} :
      (e.backupCall cfg now).stored e.name cfg = some s → CodeWrite s
  | repair (e : Engine) (p : Platform) (cfg : Config) (start : Time) {c : Call} {s : Stored} :
      c ∈ (e.repair p cfg start).1.calls → c.stored e.name cfg = some s → CodeWrite s

/-! ## `latest` for CNPG -/

/-- The dumps of the code set the tag `job` at most: such a snapshot matches a restore's filter
exactly when it is of the restore's engine and cluster. -/
theorem dumpTags_matches {engine engine' dumpFilename t path : String} {cfg cfg' : Config}
    {time : Time} {extra : List (String × String)} (hextra : extra = [] ∨ ∃ j, extra = [("job", j)])
    (h : (Stored.mk (extra.foldl insertTag [("engine", engine'), ("cluster", cfg'.clusterName),
      ("namespace", cfg'.ns), ("type", t)]) path time).matches
        (dumpRequest engine dumpFilename cfg).filterTags = true) :
    engine' = engine ∧ cfg'.clusterName = cfg.clusterName ∧ cfg'.ns = cfg.ns := by
  rcases hextra with rfl | ⟨j, rfl⟩ <;> simp [Stored.matches, dumpRequest, insertTag] at h <;>
    exact ⟨h.1.symm, h.2.1.symm, h.2.2.symm⟩

theorem Engine.dumpFilename_of_name {e : Engine} (h : e.name = "cnpg") : e.dumpFilename = Cnpg.dumpFilename := by
  cases e with
  | cnpg => rfl
  | galera => simp [Engine.name] at h

/-- **What the code writes under a CNPG cluster's tags.**  Every snapshot the code can write
that matches the filter of a CNPG restore is a `type=backup` dump at
`<ns>/<cluster>/pgdumpall.sql`: `Backup()` and the escrow write one, a Galera dump carries
`engine=galera`, and a CNPG repair makes no diverged capture. -/
theorem codeWrite_cnpg {cfg : Config} {s : Stored} (hw : CodeWrite s)
    (hm : s.matches (dumpRequest "cnpg" Cnpg.dumpFilename cfg).filterTags = true) :
    ("type", "backup") ∈ s.tags ∧ s.path = cfg.ns ++ "/" ++ cfg.clusterName ++ "/" ++ Cnpg.dumpFilename := by
  cases hw with
  | backup e cfg' now hs =>
    cases e with
    | cnpg cl data =>
      simp only [Engine.backupCall, Engine.name, Call.stored, Option.some.injEq] at hs
      subst hs
      obtain ⟨-, hc, hn⟩ := dumpTags_matches (.inl rfl) hm
      simp [hc, hn]
    | galera mdb data =>
      simp only [Engine.backupCall, Engine.name, Call.stored, Option.some.injEq] at hs
      subst hs
      exact absurd (dumpTags_matches (.inl rfl) hm).1 (by decide)
  | repair e p cfg' start hc hs =>
    rename_i c
    cases hh : c.isHeal
    · rcases Engine.repair_dumps p cfg' start e hc hh with ⟨donor, rfl⟩ | ⟨hname, a, rfl⟩
      · simp only [Repair.escrowCall, Call.stored, Option.some.injEq] at hs
        subst hs
        obtain ⟨he, hc, hn⟩ := dumpTags_matches (.inl rfl) hm
        simp [hc, hn, Engine.dumpFilename_of_name he]
      · simp only [Repair.divergedCall, Call.stored, Option.some.injEq] at hs
        subst hs
        exact absurd (hname.symm.trans (dumpTags_matches (.inr ⟨_, rfl⟩) hm).1) (by decide)
    · cases c <;> simp [Call.isHeal, Call.stored] at hh hs

/-- **A CNPG restore of `latest` reads a full-cluster dump.**  For every repository of snapshots
the code wrote, in any order, a CNPG `restoreDump` with no `--snapshot` and no `--instance` asks
for `latest`, and every snapshot the archiver may choose for it, whichever tie it breaks, is a
`type=backup` snapshot at the path the restore reads: no CNPG repair writes a capture. -/
theorem restore_latest_cnpg (cfg : Config) (hs : cfg.snapshot = "") (hi : cfg.instanceNumber = none)
    (repo : List Stored) (hrepo : ∀ s ∈ repo, CodeWrite s) {s : Stored}
    (hl : IsLatest repo (dumpRequest "cnpg" Cnpg.dumpFilename cfg).filterTags s) :
    (dumpRequest "cnpg" Cnpg.dumpFilename cfg).snapshotID = "latest" ∧
      ("type", "backup") ∈ s.tags ∧ s.path = (dumpRequest "cnpg" Cnpg.dumpFilename cfg).path := by
  obtain ⟨htype, hpath⟩ := codeWrite_cnpg (hrepo s hl.1) hl.2.1
  refine ⟨by simp [dumpRequest, hs], htype, ?_⟩
  rw [hpath]
  simp [dumpRequest, hi]

/-! ## `latest` for Galera -/

/-- The snapshots the repair of spec scenario 6 writes, when it starts at 2024-07-01 12:00 UTC: the
escrow and the three diverged captures, all stamped with the repair's start. -/
def scenario6Snapshots : List Stored :=
  (Engine.scenario6Galera.repair Platform.healthy Galera.escrowConfig ⟨1719835200⟩).1.calls
    |>.filterMap (Call.stored "galera" Galera.escrowConfig)

/-- The first of them, the diverged capture of node `g-0`. -/
def scenario6Capture : Stored :=
  ⟨[("engine", "galera"), ("cluster", "g"), ("namespace", "db"), ("type", "diverged"),
    ("job", "20240701T120000Z")], "db/g/0-mysqldump.sql", ⟨1719835200⟩⟩

/-- **A Galera restore of `latest` can read a diverged capture.**  Every snapshot the repair of
spec scenario 6 writes is one the code writes, and its first capture is a `latest` for the
restore's filter; it is `type=diverged`, and its path is not the one the restore reads. -/
theorem restore_latest_galera_diverged :
    (∀ s ∈ scenario6Snapshots, CodeWrite s) ∧
      IsLatest scenario6Snapshots
        (dumpRequest "galera" Galera.dumpFilename Galera.escrowConfig).filterTags scenario6Capture ∧
      ("type", "diverged") ∈ scenario6Capture.tags ∧
      scenario6Capture.path ≠
        (dumpRequest "galera" Galera.dumpFilename Galera.escrowConfig).path := by
  refine ⟨fun s hs => ?_, by decide, by decide, by decide⟩
  obtain ⟨c, hc, hs⟩ := List.mem_filterMap.1 hs
  exact .repair Engine.scenario6Galera Platform.healthy Galera.escrowConfig ⟨1719835200⟩ hc hs

end Hasteward
