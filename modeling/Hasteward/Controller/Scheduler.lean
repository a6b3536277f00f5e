import Hasteward.Common
import Mathlib.Data.List.Nodup

/-!
# The operator's scheduler

In operator mode `controller/scheduler.go` keeps one `scheduledDB` per database key
(`engine/namespace/name`): the `ManagedDB` last registered, and the ids of the cron entries made
for it.  `Register` either updates that `db` in place, when the schedules, the mode and the
repositories are unchanged, or removes the old entries and adds new ones: one backup entry per
repository, whose closure calls `runBackup(db, repo)`, and one triage entry, whose closure calls
`runTriage(db)`; a triage that finds the cluster unhealthy in `repair` mode goes on to
`runAutoRepair` in the same goroutine.

The cron is `cron.New(cron.WithSeconds())` of robfig/cron, with no job wrapper: when an entry
comes due the library starts its job in a goroutine of its own and does not wait for it.  Its
schedule parser is not modelled (`parses` says which specs it accepts), nor is time: any entry
may come due at any moment.  A step of `Sys` is one `Register` or `Deregister` (both run under
the scheduler's lock), one firing, or one step of a goroutine.

* `repairs_overlap`, `backups_overlap`: for every database registered with a triage schedule in
  `repair` mode, two `runAutoRepair` of it can be in progress at once (a triage that fires again
  before the last repair has ended); for every database with a backup schedule and two
  repositories, two `runBackup` can.  Nothing in the scheduler serialises the operations of one
  key, so `operations_overlap` holds of every such registration.
* `entries_recorded`: the bookkeeping is sound over every run.  Each cron entry is recorded under
  one managed key, and each recorded id names exactly one entry, so `Deregister` and a changed
  schedule leave no entry behind.  The invariant is `Bookkept`; `Bookkept.register` and
  `Bookkept.deregister` are its step lemmas.
-/

set_option autoImplicit false

namespace Hasteward
namespace Controller

/-! ## Registration -/

/-- `v1alpha1.EffectiveConfig`: the fields the scheduler and its jobs read. -/
structure EffectiveConfig where
  backupSchedule : String
  triageSchedule : String
  mode : String
  repositories : List String
  healTimeout : Int
  deleteTimeout : Int
  deriving DecidableEq, Repr

/-- `ManagedDB`: a database as `Reconcile` resolved it. -/
structure ManagedDB where
  ns : String
  clusterName : String
  engine : String
  config : EffectiveConfig
  deriving DecidableEq, Repr

/-- The key `Reconcile` registers a database under: `engine/namespace/name`. -/
def ManagedDB.key (db : ManagedDB) : String := db.engine ++ "/" ++ db.ns ++ "/" ++ db.clusterName

/-- The function of a cron entry: the closure `Register` hands `AddFunc`, with the `db` (and the
repository) it captured. -/
inductive Job
  | backup (db : ManagedDB) (repo : String)
  | triage (db : ManagedDB)
  deriving DecidableEq, Repr

/-- A cron entry. -/
structure Entry where
  id : Nat
  spec : String
  job : Job
  deriving DecidableEq, Repr

/-- The cron: its entries, in the order they were added, and the last id it gave out. -/
structure Cron where
  entries : List Entry
  nextID : Nat
  deriving DecidableEq, Repr

/-- `AddFunc`: an entry with the next id, or no entry when the spec does not parse. -/
def Cron.addFunc (parses : String → Bool) (c : Cron) (spec : String) (job : Job) :
    Cron × Option Nat :=
  if parses spec then
    ({ entries := c.entries ++ [⟨c.nextID + 1, spec, job⟩], nextID := c.nextID + 1 },
      some (c.nextID + 1))
  else (c, none)

/-- `Remove`. -/
def Cron.remove (c : Cron) (id : Nat) : Cron :=
  { c with entries := c.entries.filter fun e => e.id ≠ id }

/-- `scheduledDB`. -/
structure ScheduledDB where
  db : ManagedDB
  backupIDs : List Nat
  triageID : Nat
  deriving DecidableEq, Repr

/-- `Scheduler`: the cron and the map `managed`. -/
structure Scheduler where
  cron : Cron
  managed : String → Option ScheduledDB

/-- `managed` with `key` set to `v` (`none` deletes it). -/
def setManaged (m : String → Option ScheduledDB) (key : String) (v : Option ScheduledDB) :
    String → Option ScheduledDB :=
  fun k => if k = key then v else m k

@[simp] theorem setManaged_self (m : String → Option ScheduledDB) (key : String)
    (v : Option ScheduledDB) : setManaged m key v key = v := by
  simp [setManaged]

@[simp] theorem setManaged_ne (m : String → Option ScheduledDB) {key k : String}
    (v : Option ScheduledDB) (h : k ≠ key) : setManaged m key v k = m k := by
  simp [setManaged, h]

theorem setManaged_eq_some {m : String → Option ScheduledDB} {key k : String}
    {v : Option ScheduledDB} {sdb : ScheduledDB} :
    setManaged m key v k = some sdb ↔ (k = key ∧ v = some sdb) ∨ (k ≠ key ∧ m k = some sdb) := by
  unfold setManaged
  split_ifs with h <;> simp [h]

/-- `reposEqual`: the same repositories in the same order. -/
def reposEqual (a b : List String) : Bool :=
  a.length == b.length && (a.zip b).all fun p => p.1 == p.2

/-- `deregisterLocked`: remove the key's entries from the cron and the key from `managed`. -/
def deregisterLocked (s : Scheduler) (key : String) : Scheduler :=
  match s.managed key with
  | none => s
  | some entry =>
    let c := entry.backupIDs.foldl Cron.remove s.cron
    { cron := if entry.triageID != 0 then c.remove entry.triageID else c,
      managed := setManaged s.managed key none }

/-- One turn of `Register`'s loop over the repositories: schedule a backup to `repo`, and keep
its id if `AddFunc` gave one. -/
def scheduleBackup (parses : String → Bool) (db : ManagedDB) :
    Cron × List Nat → String → Cron × List Nat
  | (c, ids), repo =>
    match c.addFunc parses db.config.backupSchedule (.backup db repo) with
    | (c', some id) => (c', ids ++ [id])
    | (c', none) => (c', ids)

/-- `Register`'s backups: one entry per repository, unless there is no backup schedule or the
mode is `disabled`. -/
def scheduleBackups (parses : String → Bool) (db : ManagedDB) (c : Cron) : Cron × List Nat :=
  if db.config.backupSchedule != "" && db.config.mode != "disabled" then
    db.config.repositories.foldl (scheduleBackup parses db) (c, [])
  else (c, [])

/-- `Register`'s triage: one entry, unless there is no triage schedule or the mode is
`disabled`; the id `0` when there is none. -/
def scheduleTriage (parses : String → Bool) (db : ManagedDB) (c : Cron) : Cron × Nat :=
  if db.config.triageSchedule != "" && db.config.mode != "disabled" then
    match c.addFunc parses db.config.triageSchedule (.triage db) with
    | (c', some id) => (c', id)
    | (c', none) => (c', 0)
  else (c, 0)

/-- The second half of `Register`: the new entries, and `managed[key]` recording them. -/
def addEntries (parses : String → Bool) (s : Scheduler) (key : String) (db : ManagedDB) :
    Scheduler :=
  let b := scheduleBackups parses db s.cron
  let t := scheduleTriage parses db b.1
  { cron := t.1, managed := setManaged s.managed key (some ⟨db, b.2, t.2⟩) }

/-- `Register(key, db)`. -/
def register (parses : String → Bool) (s : Scheduler) (key : String) (db : ManagedDB) :
    Scheduler :=
  match s.managed key with
  | some existing =>
    if existing.db.config.backupSchedule == db.config.backupSchedule &&
        existing.db.config.triageSchedule == db.config.triageSchedule &&
        existing.db.config.mode == db.config.mode &&
        reposEqual existing.db.config.repositories db.config.repositories then
      { s with managed := setManaged s.managed key (some { existing with db := db }) }
    else addEntries parses (deregisterLocked s key) key db
  | none => addEntries parses s key db

/-! ## The jobs in progress -/

/-- What a goroutine started by a firing is running. -/
inductive Op
  | runBackup (db : ManagedDB) (repo : String)
  | runTriage (db : ManagedDB)
  | runAutoRepair (db : ManagedDB)
  deriving DecidableEq, Repr

/-- The database an operation drives. -/
def Op.db : Op → ManagedDB
  | .runBackup db _ => db
  | .runTriage db => db
  | .runAutoRepair db => db

/-- What a job runs when its entry fires. -/
def Job.run : Job → Op
  | .backup db repo => .runBackup db repo
  | .triage db => .runTriage db

/-- `runTriage`'s verdict on a triage result. -/
def triageStatus (r : TriageResult) : String :=
  let status := if r.readyCount < r.totalCount then "unhealthy" else "healthy"
  if !r.dataComparison.safeToHeal && r.dataComparison.splitBrainDetails.length > 0 then
    "split-brain"
  else status

/-- The scheduler and the goroutines its firings started, still running. -/
structure Sys where
  sched : Scheduler
  running : List Op

/-- The operator's start: nothing registered, nothing running. -/
def Sys.init : Sys := ⟨⟨⟨[], 0⟩, fun _ => none⟩, []⟩

/-- A step of the operator. -/
inductive Event
  /-- `Reconcile` calls `Register`. -/
  | register (key : String) (db : ManagedDB)
  /-- `Reconcile` calls `Deregister`. -/
  | deregister (key : String)
  /-- The `i`-th cron entry comes due, and the cron starts its job. -/
  | fire (i : Nat)
  /-- The triage of goroutine `i` returns `r`. -/
  | triaged (i : Nat) (r : TriageResult)
  /-- Goroutine `i` returns. -/
  | finish (i : Nat)

/-- One step.  A firing starts its job whatever is in progress; a triage in `repair` mode that
finds the cluster unhealthy turns into `runAutoRepair`, and otherwise returns. -/
def step (parses : String → Bool) (s : Sys) : Event → Option Sys
  | .register key db => some { s with sched := register parses s.sched key db }
  | .deregister key => some { s with sched := deregisterLocked s.sched key }
  | .fire i => s.sched.cron.entries[i]?.map fun e => { s with running := s.running ++ [e.job.run] }
  | .triaged i r =>
    match s.running[i]? with
    | some (.runTriage db) =>
      if db.config.mode = "repair" ∧ triageStatus r = "unhealthy" then
        some { s with running := s.running.set i (.runAutoRepair db) }
      else some { s with running := s.running.eraseIdx i }
    | _ => none
  | .finish i => if i < s.running.length then some { s with running := s.running.eraseIdx i } else none

/-- The states the operator can reach. -/
inductive Reachable (parses : String → Bool) : Sys → Prop
  | init : Reachable parses .init
  | step {s s' : Sys} (e : Event) : Reachable parses s → step parses s e = some s' →
      Reachable parses s'

/-- Replay a list of steps. -/
def run (parses : String → Bool) : Sys → List Event → Option Sys
  | s, [] => some s
  | s, e :: es => (step parses s e).bind fun s' => run parses s' es

theorem run_reachable {parses : String → Bool} :
    ∀ {s s' : Sys} (es : List Event), Reachable parses s → run parses s es = some s' →
      Reachable parses s'
  | _, _, [], hs, h => by cases h; exact hs
  | s, _, e :: es, hs, h => by
    simp only [run, Option.bind_eq_some] at h
    obtain ⟨s₁, h₁, h₂⟩ := h
    exact run_reachable es (.step e hs h₁) h₂

/-- No two operations in progress drive the same database key. -/
def Serialized (s : Sys) : Prop :=
  s.running.Pairwise fun a b => a.db.key ≠ b.db.key

/-! ## What `Register` adds -/

section Register

variable (parses : String → Bool) (db : ManagedDB)

@[simp] theorem addFunc_fst_entries (c : Cron) (spec : String) (job : Job) :
    (c.addFunc parses spec job).1.entries =
      c.entries ++ if parses spec then [⟨c.nextID + 1, spec, job⟩] else [] := by
  unfold Cron.addFunc
  split <;> simp_all

theorem scheduleBackup_fst (acc : Cron × List Nat) (repo : String) :
    (scheduleBackup parses db acc repo).1 =
      (acc.1.addFunc parses db.config.backupSchedule (.backup db repo)).1 := by
  obtain ⟨c, ids⟩ := acc
  dsimp only [scheduleBackup]
  cases c.addFunc parses db.config.backupSchedule (.backup db repo) with
  | mk c' o => cases o <;> rfl

/-- With a backup spec that parses, the loop adds one entry per repository, in order. -/
theorem foldl_scheduleBackup_jobs (hp : parses db.config.backupSchedule = true)
    (repos : List String) (acc : Cron × List Nat) :
    (repos.foldl (scheduleBackup parses db) acc).1.entries.map (·.job) =
      acc.1.entries.map (·.job) ++ repos.map (.backup db) := by
  induction repos generalizing acc with
  | nil => simp
  | cons repo repos ih => simp [ih, scheduleBackup_fst, hp]

theorem scheduleBackups_jobs (c : Cron) (hb : db.config.backupSchedule ≠ "")
    (hm : db.config.mode ≠ "disabled") (hp : parses db.config.backupSchedule = true) :
    (scheduleBackups parses db c).1.entries.map (·.job) =
      c.entries.map (·.job) ++ db.config.repositories.map (.backup db) := by
  simp [scheduleBackups, hb, hm, foldl_scheduleBackup_jobs parses db hp]

theorem scheduleTriage_fst (c : Cron) :
    (scheduleTriage parses db c).1 =
      if db.config.triageSchedule != "" && db.config.mode != "disabled" then
        (c.addFunc parses db.config.triageSchedule (.triage db)).1
      else c := by
  unfold scheduleTriage
  split
  · split <;> simp_all
  · rfl

/-- The triage entry, when there is one, comes after every entry already there. -/
theorem scheduleTriage_entries (c : Cron) :
    ∃ more, (scheduleTriage parses db c).1.entries = c.entries ++ more := by
  rw [scheduleTriage_fst]
  split
  · exact ⟨_, addFunc_fst_entries parses c _ _⟩
  · exact ⟨[], (List.append_nil _).symm⟩

theorem scheduleTriage_jobs (c : Cron) (ht : db.config.triageSchedule ≠ "")
    (hm : db.config.mode ≠ "disabled") (hp : parses db.config.triageSchedule = true) :
    (scheduleTriage parses db c).1.entries.map (·.job) = c.entries.map (·.job) ++ [.triage db] := by
  simp [scheduleTriage_fst, ht, hm, hp]

end Register

/-! ## Operations of one key overlap -/

section Overlap

variable (parses : String → Bool)

/-- A firing starts its job alongside whatever is in progress. -/
theorem step_fire {s : Sys} {i : Nat} {j : Job}
    (h : (s.sched.cron.entries.map (·.job))[i]? = some j) :
    step parses s (.fire i) = some { s with running := s.running ++ [j.run] } := by
  rw [List.getElem?_map] at h
  simp only [step]
  cases he : s.sched.cron.entries[i]? <;> simp_all

theorem step_triaged_repair {s : Sys} {i : Nat} {db : ManagedDB} {r : TriageResult}
    (hi : s.running[i]? = some (.runTriage db)) (hm : db.config.mode = "repair")
    (hr : triageStatus r = "unhealthy") :
    step parses s (.triaged i r) = some { s with running := s.running.set i (.runAutoRepair db) } := by
  simp [step, hi, hm, hr]

/-- A triage result with one instance not ready and no split-brain. -/
def unhealthy : TriageResult := { readyCount := 2, totalCount := 3 }

theorem triageStatus_unhealthy : triageStatus unhealthy = "unhealthy" := by
  decide

/-- **Two repairs of one cluster.**  Whatever else it has, a database registered with a triage
schedule that parses, in `repair` mode, can have two `runAutoRepair` in progress at once: its
triage entry fires, finds the cluster unhealthy and starts a repair, then fires again before that
repair has ended. -/
theorem repairs_overlap (key : String) (db : ManagedDB) (hm : db.config.mode = "repair")
    (ht : db.config.triageSchedule ≠ "") (hp : parses db.config.triageSchedule = true) :
    ∃ s, Reachable parses s ∧ s.running = [.runAutoRepair db, .runAutoRepair db] := by
  let sched := register parses Sys.init.sched key db
  have hjobs : sched.cron.entries.map (·.job) =
      (scheduleBackups parses db Sys.init.sched.cron).1.entries.map (·.job) ++ [.triage db] :=
    scheduleTriage_jobs parses db _ ht (by rw [hm]; decide) hp
  let n := ((scheduleBackups parses db Sys.init.sched.cron).1.entries.map (·.job)).length
  have hfire : (sched.cron.entries.map (·.job))[n]? = some (.triage db) := by
    rw [hjobs]; exact List.getElem?_concat_length _ _
  have h₁ : step parses Sys.init (.register key db) = some ⟨sched, []⟩ := rfl
  have h₂ : step parses ⟨sched, []⟩ (.fire n) = some ⟨sched, [.runTriage db]⟩ :=
    step_fire parses (j := .triage db) hfire
  have h₃ : step parses ⟨sched, [.runTriage db]⟩ (.triaged 0 unhealthy) =
      some ⟨sched, [.runAutoRepair db]⟩ :=
    step_triaged_repair parses rfl hm triageStatus_unhealthy
  have h₄ : step parses ⟨sched, [.runAutoRepair db]⟩ (.fire n) =
      some ⟨sched, [.runAutoRepair db, .runTriage db]⟩ :=
    step_fire parses (j := .triage db) hfire
  have h₅ : step parses ⟨sched, [.runAutoRepair db, .runTriage db]⟩ (.triaged 1 unhealthy) =
      some ⟨sched, [.runAutoRepair db, .runAutoRepair db]⟩ :=
    step_triaged_repair parses rfl hm triageStatus_unhealthy
  exact ⟨_, .step _ (.step _ (.step _ (.step _ (.step _ .init h₁) h₂) h₃) h₄) h₅, rfl⟩

/-- **Two backups of one cluster.**  A database registered with a backup schedule that parses
and two repositories has two entries with that one schedule, which come due together: both
`runBackup` are in progress at once. -/
theorem backups_overlap (key : String) (db : ManagedDB) {r₁ r₂ : String} {rest : List String}
    (hr : db.config.repositories = r₁ :: r₂ :: rest) (hb : db.config.backupSchedule ≠ "")
    (hm : db.config.mode ≠ "disabled") (hp : parses db.config.backupSchedule = true) :
    ∃ s, Reachable parses s ∧ s.running = [.runBackup db r₁, .runBackup db r₂] := by
  let sched := register parses Sys.init.sched key db
  obtain ⟨more, hmore⟩ :=
    scheduleTriage_entries parses db (scheduleBackups parses db Sys.init.sched.cron).1
  have hjobs : sched.cron.entries.map (·.job) =
      .backup db r₁ :: .backup db r₂ :: (rest.map (.backup db) ++ more.map (·.job)) := by
    show (scheduleTriage parses db _).1.entries.map (·.job) = _
    rw [hmore, List.map_append, scheduleBackups_jobs parses db _ hb hm hp, hr]
    rfl
  have h₁ : step parses Sys.init (.register key db) = some ⟨sched, []⟩ := rfl
  have h₂ : step parses ⟨sched, []⟩ (.fire 0) = some ⟨sched, [.runBackup db r₁]⟩ :=
    step_fire parses (j := .backup db r₁) (by simp [hjobs])
  have h₃ : step parses ⟨sched, [.runBackup db r₁]⟩ (.fire 1) =
      some ⟨sched, [.runBackup db r₁, .runBackup db r₂]⟩ :=
    step_fire parses (j := .backup db r₂) (by simp [hjobs])
  exact ⟨_, .step _ (.step _ (.step _ .init h₁) h₂) h₃, rfl⟩

/-- **Nothing serialises the operations of one key.**  For every database registered in
`repair` mode with a triage schedule that parses, two repairs of it can be in progress at once;
for every database with a backup schedule that parses and two repositories, two backups can. -/
theorem operations_overlap (key : String) (db : ManagedDB) :
    (db.config.mode = "repair" → db.config.triageSchedule ≠ "" →
        parses db.config.triageSchedule = true →
        ∃ s, Reachable parses s ∧ s.running = [.runAutoRepair db, .runAutoRepair db]) ∧
      ∀ r₁ r₂ rest, db.config.repositories = r₁ :: r₂ :: rest → db.config.backupSchedule ≠ "" →
        db.config.mode ≠ "disabled" → parses db.config.backupSchedule = true →
        ∃ s, Reachable parses s ∧ s.running = [.runBackup db r₁, .runBackup db r₂] :=
  ⟨repairs_overlap parses key db, fun _ _ _ hr => backups_overlap parses key db hr⟩

end Overlap

/-- A CNPG database in `repair` mode, triaged every thirty seconds and backed up hourly to two
repositories. -/
def repairDB : ManagedDB where
  ns := "db"
  clusterName := "c"
  engine := "cnpg"
  config :=
    { backupSchedule := "0 0 * * * *", triageSchedule := "*/30 * * * * *", mode := "repair",
      repositories := ["nas", "s3"], healTimeout := 600, deleteTimeout := 300 }

/-- Operations on `repairDB` are not serialised: two repairs of it run at once. -/
theorem repairs_overlap_repairDB :
    ∃ s, Reachable (fun _ => true) s ∧ ¬ Serialized s := by
  obtain ⟨s, hs, hrun⟩ := repairs_overlap (fun _ => true) repairDB.key repairDB rfl (by decide) rfl
  refine ⟨s, hs, ?_⟩
  rw [Serialized, hrun]
  decide

/-! ## The bookkeeping `Register` and `Deregister` keep -/

/-- The ids `managed[key]` records: its backups', then its triage's when it has one. -/
def ScheduledDB.ids (sdb : ScheduledDB) : List Nat :=
  sdb.backupIDs ++ if sdb.triageID = 0 then [] else [sdb.triageID]

/-- `c'` is `c` with entries of the fresh ids `ids` appended, in order. -/
structure Cron.Grows (c c' : Cron) (ids : List Nat) : Prop where
  nextID_le : c.nextID ≤ c'.nextID
  entries : ∃ new : List Entry, c'.entries = c.entries ++ new ∧ new.map (·.id) = ids
  fresh : ∀ id ∈ ids, c.nextID < id ∧ id ≤ c'.nextID
  nodup : ids.Nodup

theorem Cron.Grows.refl (c : Cron) : c.Grows c [] :=
  ⟨Nat.le_refl _, ⟨[], by simp, rfl⟩, by simp, List.nodup_nil⟩

theorem Cron.Grows.trans {c c' c'' : Cron} {ids ids' : List Nat} (h : c.Grows c' ids)
    (h' : c'.Grows c'' ids') : c.Grows c'' (ids ++ ids') where
  nextID_le := Nat.le_trans h.nextID_le h'.nextID_le
  entries := by
    obtain ⟨new, he, hm⟩ := h.entries
    obtain ⟨new', he', hm'⟩ := h'.entries
    exact ⟨new ++ new', by rw [he', he, List.append_assoc], by rw [List.map_append, hm, hm']⟩
  fresh id hid := by
    have := h.nextID_le
    have := h'.nextID_le
    rcases List.mem_append.1 hid with hid | hid
    · have := h.fresh id hid; omega
    · have := h'.fresh id hid; omega
  nodup := h.nodup.append h'.nodup fun id h1 h2 => by
    have := h.fresh id h1
    have := h'.fresh id h2
    omega

section Grows

variable (parses : String → Bool) (db : ManagedDB)

theorem addFunc_grows (c : Cron) (spec : String) (job : Job) :
    c.Grows (c.addFunc parses spec job).1 (c.addFunc parses spec job).2.toList := by
  unfold Cron.addFunc
  split
  · exact ⟨Nat.le_succ _, ⟨[_], rfl, rfl⟩, by simp, List.nodup_singleton _⟩
  · exact Cron.Grows.refl c

theorem scheduleBackup_grows (acc : Cron × List Nat) (repo : String) :
    ∃ ids, acc.1.Grows (scheduleBackup parses db acc repo).1 ids ∧
      (scheduleBackup parses db acc repo).2 = acc.2 ++ ids := by
  obtain ⟨c, ids⟩ := acc
  have h := addFunc_grows parses c db.config.backupSchedule (.backup db repo)
  dsimp only [scheduleBackup]
  revert h
  cases c.addFunc parses db.config.backupSchedule (.backup db repo) with
  | mk c' o => cases o <;> exact fun h => ⟨_, h, by simp⟩

theorem foldl_scheduleBackup_grows (repos : List String) (acc : Cron × List Nat) :
    ∃ ids, acc.1.Grows (repos.foldl (scheduleBackup parses db) acc).1 ids ∧
      (repos.foldl (scheduleBackup parses db) acc).2 = acc.2 ++ ids := by
  induction repos generalizing acc with
  | nil => exact ⟨[], Cron.Grows.refl _, by simp⟩
  | cons repo repos ih =>
    obtain ⟨ids, hg, h2⟩ := scheduleBackup_grows parses db acc repo
    obtain ⟨ids', hg', h2'⟩ := ih (scheduleBackup parses db acc repo)
    exact ⟨ids ++ ids', hg.trans hg', by rw [List.foldl_cons, h2', h2, List.append_assoc]⟩

theorem scheduleBackups_grows (c : Cron) :
    c.Grows (scheduleBackups parses db c).1 (scheduleBackups parses db c).2 := by
  unfold scheduleBackups
  split
  · obtain ⟨ids, hg, h2⟩ := foldl_scheduleBackup_grows parses db db.config.repositories (c, [])
    rw [h2, List.nil_append]
    exact hg
  · exact Cron.Grows.refl c

theorem scheduleTriage_grows (c : Cron) :
    c.Grows (scheduleTriage parses db c).1
      (if (scheduleTriage parses db c).2 = 0 then [] else [(scheduleTriage parses db c).2]) := by
  unfold scheduleTriage
  split
  · have h := addFunc_grows parses c db.config.triageSchedule (.triage db)
    revert h
    cases c.addFunc parses db.config.triageSchedule (.triage db) with
    | mk c' o => cases o with
      | none => exact fun h => h
      | some id =>
        intro h
        have := h.fresh id (by simp)
        simpa [show id ≠ 0 by omega] using h
  · exact Cron.Grows.refl c

/-- `addEntries` appends the entries whose ids it records under `key`, for `db`. -/
theorem addEntries_grows (s : Scheduler) (key : String) :
    ∃ c sdb, addEntries parses s key db = ⟨c, setManaged s.managed key (some sdb)⟩ ∧
      s.cron.Grows c sdb.ids :=
  ⟨_, _, rfl, (scheduleBackups_grows parses db s.cron).trans (scheduleTriage_grows parses db _)⟩

end Grows

/-- `Remove` of each id in turn drops the entries with those ids. -/
theorem foldl_remove (ids : List Nat) (c : Cron) :
    ids.foldl Cron.remove c = { c with entries := c.entries.filter fun e => e.id ∉ ids } := by
  induction ids generalizing c with
  | nil => simp
  | cons id ids ih =>
    rw [List.foldl_cons, ih]
    simp only [Cron.remove, List.filter_filter, List.mem_cons, not_or, Bool.decide_and, Bool.and_comm, ne_eq]

theorem deregisterLocked_of_some {s : Scheduler} {key : String} {sdb : ScheduledDB}
    (h : s.managed key = some sdb) :
    deregisterLocked s key =
      ⟨{ s.cron with entries := s.cron.entries.filter fun e => e.id ∉ sdb.ids },
        setManaged s.managed key none⟩ := by
  unfold deregisterLocked
  rw [h]
  simp only [foldl_remove, ScheduledDB.ids, Scheduler.mk.injEq, and_true]
  split <;> simp_all [Cron.remove, List.filter_filter, Bool.decide_and, Bool.and_comm, ne_eq]

theorem deregisterLocked_managed (s : Scheduler) (key : String) :
    (deregisterLocked s key).managed key = none := by
  unfold deregisterLocked
  split <;> simp_all

/-- What `Register` and `Deregister` keep: entries with positive, distinct ids up to `nextID`,
each recorded under a managed key; recorded ids that name entries; and no id recorded under two
keys. -/
structure Bookkept (s : Scheduler) : Prop where
  fresh : ∀ e ∈ s.cron.entries, 0 < e.id ∧ e.id ≤ s.cron.nextID
  nodup : (s.cron.entries.map (·.id)).Nodup
  recorded : ∀ e ∈ s.cron.entries, ∃ key sdb, s.managed key = some sdb ∧ e.id ∈ sdb.ids
  present : ∀ key sdb, s.managed key = some sdb → ∀ id ∈ sdb.ids, ∃ e ∈ s.cron.entries, e.id = id
  disjoint : ∀ k k' sdb sdb', s.managed k = some sdb → s.managed k' = some sdb' → k ≠ k' →
    ∀ id ∈ sdb.ids, id ∉ sdb'.ids

section Bookkept

variable {s : Scheduler}

theorem bookkept_init : Bookkept ⟨⟨[], 0⟩, fun _ => none⟩ where
  fresh := by simp
  nodup := List.nodup_nil
  recorded := by simp
  present := by simp
  disjoint := by simp

/-- Every recorded id is at most `nextID`. -/
theorem Bookkept.id_le (hb : Bookkept s) {k : String} {sdb : ScheduledDB}
    (hk : s.managed k = some sdb) {id : Nat} (hid : id ∈ sdb.ids) : id ≤ s.cron.nextID := by
  obtain ⟨e, he, rfl⟩ := hb.present k sdb hk id hid
  exact (hb.fresh e he).2

/-- Recording fresh entries under a key `managed` does not hold keeps the bookkeeping. -/
theorem Bookkept.add (hb : Bookkept s) {key : String} {c : Cron} {sdb : ScheduledDB}
    (hnone : s.managed key = none) (hg : s.cron.Grows c sdb.ids) :
    Bookkept ⟨c, setManaged s.managed key (some sdb)⟩ := by
  obtain ⟨new, he, hm⟩ := hg.entries
  have hnew : ∀ e ∈ new, s.cron.nextID < e.id ∧ e.id ≤ c.nextID := fun e h =>
    hg.fresh e.id (hm ▸ List.mem_map_of_mem _ h)
  -- a fresh id is recorded under no key already managed
  have hfresh : ∀ {k sdb'}, s.managed k = some sdb' → ∀ id ∈ sdb.ids, id ∉ sdb'.ids :=
    fun hk id h1 h2 => by
      have := hg.fresh id h1
      have := hb.id_le hk h2
      omega
  have hkey : ∀ {k sdb'}, s.managed k = some sdb' → k ≠ key := by
    rintro k sdb' hk rfl
    simp [hnone] at hk
  constructor <;> dsimp only
  · intro e hmem
    rw [he, List.mem_append] at hmem
    rcases hmem with hmem | hmem
    · have := hb.fresh e hmem
      have := hg.nextID_le
      omega
    · have := hnew e hmem
      omega
  · rw [he, List.map_append, hm]
    refine hb.nodup.append hg.nodup fun id h1 h2 => ?_
    obtain ⟨e, he', rfl⟩ := List.mem_map.1 h1
    have := hb.fresh e he'
    have := hg.fresh _ h2
    omega
  · intro e hmem
    rw [he, List.mem_append] at hmem
    rcases hmem with hmem | hmem
    · obtain ⟨k, sdb', hk, hid⟩ := hb.recorded e hmem
      exact ⟨k, sdb', by simp [hkey hk, hk], hid⟩
    · exact ⟨key, sdb, by simp, hm ▸ List.mem_map_of_mem _ hmem⟩
  · intro k sdb' hk id hid
    rcases setManaged_eq_some.1 hk with ⟨-, hs⟩ | ⟨-, hk⟩
    · cases hs
      obtain ⟨e, he', rfl⟩ := List.mem_map.1 (hm ▸ hid)
      exact ⟨e, by simp [he, he'], rfl⟩
    · obtain ⟨e, he', hid'⟩ := hb.present k sdb' hk id hid
      exact ⟨e, by simp [he, he'], hid'⟩
  · intro k k' s₁ s₂ hk hk' hne id h1 h2
    rcases setManaged_eq_some.1 hk with ⟨rfl, hs₁⟩ | ⟨-, hk₁⟩ <;>
      rcases setManaged_eq_some.1 hk' with ⟨rfl, hs₂⟩ | ⟨-, hk₂⟩
    · exact hne rfl
    · cases hs₁
      exact hfresh hk₂ id h1 h2
    · cases hs₂
      exact hfresh hk₁ id h2 h1
    · exact hb.disjoint k k' s₁ s₂ hk₁ hk₂ hne id h1 h2

theorem Bookkept.deregister (hb : Bookkept s) (key : String) :
    Bookkept (deregisterLocked s key) := by
  cases h : s.managed key with
  | none =>
    unfold deregisterLocked
    rw [h]
    exact hb
  | some sdb =>
    rw [deregisterLocked_of_some h]
    have hkey : ∀ {k sdb'}, setManaged s.managed key none k = some sdb' →
        k ≠ key ∧ s.managed k = some sdb' := fun hk =>
      (setManaged_eq_some.1 hk).resolve_left fun ⟨_, h⟩ => nomatch h
    constructor <;> dsimp only
    · intro e hmem
      exact hb.fresh e (List.mem_filter.1 hmem).1
    · exact hb.nodup.sublist ((List.filter_sublist _).map _)
    · intro e hmem
      obtain ⟨hmem, hnot⟩ := List.mem_filter.1 hmem
      obtain ⟨k, sdb', hk, hid⟩ := hb.recorded e hmem
      have hne : k ≠ key := by
        rintro rfl
        rw [h, Option.some_inj] at hk
        subst hk
        simp [hid] at hnot
      exact ⟨k, sdb', by rw [setManaged_ne _ _ hne, hk], hid⟩
    · intro k sdb' hk id hid
      obtain ⟨hne, hk⟩ := hkey hk
      obtain ⟨e, he, rfl⟩ := hb.present k sdb' hk id hid
      have := hb.disjoint k key sdb' sdb hk h hne e.id hid
      exact ⟨e, List.mem_filter.2 ⟨he, by simpa using this⟩, rfl⟩
    · intro k k' s₁ s₂ hk hk' hne
      exact hb.disjoint k k' s₁ s₂ (hkey hk).2 (hkey hk').2 hne

/-- Updating the `db` of a managed key in place keeps the bookkeeping: the ids stay. -/
theorem Bookkept.update (hb : Bookkept s) {key : String} {existing : ScheduledDB}
    (h : s.managed key = some existing) (db : ManagedDB) :
    Bookkept { s with managed := setManaged s.managed key (some { existing with db := db }) } := by
  have hids : ∀ k sdb', setManaged s.managed key (some { existing with db := db }) k = some sdb' →
      ∃ sdb, s.managed k = some sdb ∧ sdb.ids = sdb'.ids := by
    intro k sdb' hk
    rcases setManaged_eq_some.1 hk with ⟨rfl, hs⟩ | ⟨-, hk⟩
    · cases hs
      exact ⟨existing, h, rfl⟩
    · exact ⟨sdb', hk, rfl⟩
  constructor <;> dsimp only
  · exact hb.fresh
  · exact hb.nodup
  · intro e hmem
    obtain ⟨k, sdb, hk, hid⟩ := hb.recorded e hmem
    by_cases hk' : k = key
    · subst hk'
      rw [h, Option.some_inj] at hk
      subst hk
      exact ⟨k, { existing with db := db }, by simp, hid⟩
    · exact ⟨k, sdb, by rw [setManaged_ne _ _ hk', hk], hid⟩
  · intro k sdb' hk id hid
    obtain ⟨sdb, hk, hs⟩ := hids k sdb' hk
    exact hb.present k sdb hk id (hs ▸ hid)
  · intro k k' s₁ s₂ hk hk' hne id h1 h2
    obtain ⟨t₁, ht₁, hs₁⟩ := hids k s₁ hk
    obtain ⟨t₂, ht₂, hs₂⟩ := hids k' s₂ hk'
    exact hb.disjoint k k' t₁ t₂ ht₁ ht₂ hne id (hs₁ ▸ h1) (hs₂ ▸ h2)

theorem Bookkept.register (hb : Bookkept s) (parses : String → Bool) (key : String)
    (db : ManagedDB) : Bookkept (register parses s key db) := by
  unfold Controller.register
  split
  next existing h =>
    split
    · exact hb.update h db
    · obtain ⟨c, sdb, he, hg⟩ := addEntries_grows parses db (deregisterLocked s key) key
      rw [he]
      exact (hb.deregister key).add (deregisterLocked_managed s key) hg
  next h =>
    obtain ⟨c, sdb, he, hg⟩ := addEntries_grows parses db s key
    rw [he]
    exact hb.add h hg

end Bookkept

/-- The scheduler steps are `Register` and `Deregister`; the other steps leave it alone. -/
theorem step_sched {parses : String → Bool} {s s' : Sys} {e : Event}
    (h : step parses s e = some s') :
    (∃ key db, e = .register key db ∧ s'.sched = register parses s.sched key db) ∨
      (∃ key, e = .deregister key ∧ s'.sched = deregisterLocked s.sched key) ∨
        s'.sched = s.sched := by
  cases e with
  | register key db => cases h; exact .inl ⟨key, db, rfl, rfl⟩
  | deregister key => cases h; exact .inr (.inl ⟨key, rfl, rfl⟩)
  | fire i =>
    simp only [step, Option.map_eq_some'] at h
    obtain ⟨_, -, rfl⟩ := h
    exact .inr (.inr rfl)
  | triaged i r =>
    simp only [step] at h
    split at h
    · split at h <;> (cases h; exact .inr (.inr rfl))
    · cases h
  | finish i =>
    simp only [step] at h
    split at h
    · cases h; exact .inr (.inr rfl)
    · cases h

theorem Reachable.bookkept {parses : String → Bool} {s : Sys} (h : Reachable parses s) :
    Bookkept s.sched := by
  induction h with
  | init => exact bookkept_init
  | step _ _ hs ih =>
    rcases step_sched hs with ⟨key, db, -, he⟩ | ⟨key, -, he⟩ | he <;> rw [he]
    · exact ih.register parses key db
    · exact ih.deregister key
    · exact ih

/-- **No entry is lost or leaked.**  After any `Register` and `Deregister` calls, in any order
and whatever the jobs do meanwhile, every cron entry is recorded under a managed key, no id is
recorded under two keys, and every recorded id names exactly one entry.  So `Deregister` leaves
no entry of its key behind, and `Register` with changed schedules no stale one. -/
theorem entries_recorded {parses : String → Bool} {s : Sys} (h : Reachable parses s) :
    (∀ e ∈ s.sched.cron.entries, ∃ key sdb, s.sched.managed key = some sdb ∧ e.id ∈ sdb.ids) ∧
      (∀ k k' sdb sdb', s.sched.managed k = some sdb → s.sched.managed k' = some sdb' → k ≠ k' →
        ∀ id ∈ sdb.ids, id ∉ sdb'.ids) ∧
      ∀ key sdb, s.sched.managed key = some sdb → ∀ id ∈ sdb.ids,
        ∃! e, e ∈ s.sched.cron.entries ∧ e.id = id := by
  have hb := h.bookkept
  refine ⟨hb.recorded, hb.disjoint, fun key sdb hk id hid => ?_⟩
  obtain ⟨e, he, rfl⟩ := hb.present key sdb hk id hid
  exact ⟨e, ⟨he, rfl⟩, fun e' ⟨he', hid'⟩ => List.inj_on_of_nodup_map hb.nodup he' he hid'⟩

/-- The operator once it has registered `repairDB`. -/
def registeredRepairDB : Sys :=
  ⟨register (fun _ => true) Sys.init.sched repairDB.key repairDB, []⟩

theorem entries_recorded_registeredRepairDB :
    Reachable (fun _ => true) registeredRepairDB ∧
      (∀ e ∈ registeredRepairDB.sched.cron.entries, ∃ key sdb,
        registeredRepairDB.sched.managed key = some sdb ∧ e.id ∈ sdb.ids) ∧
      (∀ k k' sdb sdb', registeredRepairDB.sched.managed k = some sdb →
        registeredRepairDB.sched.managed k' = some sdb' → k ≠ k' → ∀ id ∈ sdb.ids, id ∉ sdb'.ids) ∧
      ∀ key sdb, registeredRepairDB.sched.managed key = some sdb → ∀ id ∈ sdb.ids,
        ∃! e, e ∈ registeredRepairDB.sched.cron.entries ∧ e.id = id :=
  have h : Reachable (fun _ => true) registeredRepairDB :=
    .step (.register repairDB.key repairDB) .init rfl
  ⟨h, entries_recorded h⟩

/-! ## Which `db` the entries of a key run -/

section Captures

variable (parses : String → Bool) (db : ManagedDB)

/-- The entry an `addFunc` adds runs the job it was given. -/
theorem job_of_mem_added {spec : String} {job : Job} {id : Nat} {e : Entry}
    (he : e ∈ if parses spec then [⟨id, spec, job⟩] else []) : e.job = job := by
  split at he
  · exact (List.mem_singleton.1 he) ▸ rfl
  · exact absurd he (List.not_mem_nil _)

theorem foldl_scheduleBackup_runs (repos : List String) (acc : Cron × List Nat) :
    ∀ e ∈ (repos.foldl (scheduleBackup parses db) acc).1.entries,
      e ∈ acc.1.entries ∨ e.job.run.db = db := by
  induction repos generalizing acc with
  | nil => exact fun e he => .inl he
  | cons repo repos ih =>
    intro e he
    rcases ih _ e he with he | he
    · rw [scheduleBackup_fst, addFunc_fst_entries] at he
      rcases List.mem_append.1 he with he | he
      · exact .inl he
      · exact .inr (by rw [job_of_mem_added parses he]; rfl)
    · exact .inr he

/-- Every entry `Register` adds for `db` runs `db`. -/
theorem addEntries_runs (s : Scheduler) (key : String) :
    ∀ e ∈ (addEntries parses s key db).cron.entries, e ∈ s.cron.entries ∨ e.job.run.db = db := by
  intro e he
  have hb : ∀ e ∈ (scheduleBackups parses db s.cron).1.entries,
      e ∈ s.cron.entries ∨ e.job.run.db = db := by
    unfold scheduleBackups
    split
    · exact foldl_scheduleBackup_runs parses db _ _
    · exact fun e he => .inl he
  change e ∈ (scheduleTriage parses db _).1.entries at he
  rw [scheduleTriage_fst] at he
  split at he
  · rw [addFunc_fst_entries] at he
    rcases List.mem_append.1 he with he | he
    · exact hb e he
    · exact .inr (by rw [job_of_mem_added parses he]; rfl)
  · exact hb e he

end Captures

theorem reposEqual_self (a : List String) : reposEqual a a = true := by
  have h : (a.zip a).all (fun p => p.1 == p.2) = true := by
    induction a with
    | nil => rfl
    | cons x a ih => simp [List.zip_cons_cons, ih]
  simp [reposEqual, h]

/-- **A changed configuration never reaches the cron.**  When `Register(key, db₂)` follows
`Register(key, db₁)` with the same schedules, mode and repositories, it updates `managed[key]`
in place and leaves the entries alone, whose closures captured `db₁`.  For every such pair and
a triage schedule that parses, `managed[key]` records `db₂` while every entry of the cron still
runs `db₁`, and the triage entry fires with `db₁`: a new heal or delete timeout, or a new
retention, is recorded and never used. -/
theorem register_in_place_keeps_jobs (parses : String → Bool) (key : String) (db₁ db₂ : ManagedDB)
    (hb : db₁.config.backupSchedule = db₂.config.backupSchedule)
    (ht : db₁.config.triageSchedule = db₂.config.triageSchedule)
    (hm : db₁.config.mode = db₂.config.mode)
    (hr : db₁.config.repositories = db₂.config.repositories)
    (hts : db₁.config.triageSchedule ≠ "") (hmd : db₁.config.mode ≠ "disabled")
    (hp : parses db₁.config.triageSchedule = true) :
    let sched := register parses (register parses Sys.init.sched key db₁) key db₂
    (sched.managed key).map ScheduledDB.db = some db₂ ∧
      (∀ e ∈ sched.cron.entries, e.job.run.db = db₁) ∧
      ∃ s, Reachable parses s ∧ s.sched = sched ∧ s.running = [.runTriage db₁] := by
  intro sched
  let sched₁ := register parses Sys.init.sched key db₁
  have h₁ : sched₁ = addEntries parses Sys.init.sched key db₁ := rfl
  obtain ⟨c, sdb, hadd, -⟩ := addEntries_grows parses db₁ Sys.init.sched key
  have hsdb : sdb.db = db₁ := by
    have := congrArg (fun s => s.managed key) hadd
    simp only [addEntries, setManaged_self, Option.some_inj] at this
    exact this ▸ rfl
  have hsched : sched = { sched₁ with
      managed := setManaged sched₁.managed key (some { sdb with db := db₂ }) } := by
    show register parses sched₁ key db₂ = _
    rw [h₁, hadd]
    simp only [register, setManaged_self, hsdb, hb, ht, hm, hr, beq_self_eq_true,
      reposEqual_self, Bool.and_self, if_true]
  have hcron : sched.cron = sched₁.cron := by rw [hsched]
  refine ⟨by rw [hsched]; simp, fun e he => ?_, ?_⟩
  · rw [hcron, h₁] at he
    exact (addEntries_runs parses db₁ _ key e he).resolve_left (by simp [Sys.init])
  · have hjobs : sched.cron.entries.map (·.job) =
        (scheduleBackups parses db₁ Sys.init.sched.cron).1.entries.map (·.job) ++ [.triage db₁] := by
      rw [hcron]
      exact scheduleTriage_jobs parses db₁ _ hts hmd hp
    let n := ((scheduleBackups parses db₁ Sys.init.sched.cron).1.entries.map (·.job)).length
    have hfire : (sched.cron.entries.map (·.job))[n]? = some (.triage db₁) := by
      rw [hjobs]; exact List.getElem?_concat_length _ _
    have hs₁ : Reachable parses ⟨sched₁, []⟩ := .step (.register key db₁) .init rfl
    have hs₂ : Reachable parses ⟨sched, []⟩ := .step (.register key db₂) hs₁ rfl
    exact ⟨_, .step (.fire n) hs₂ (step_fire parses (j := .triage db₁) hfire), rfl, rfl⟩

/-- `repairDB` registered again with a heal timeout of 1200 s: its triage still runs with 600 s. -/
theorem register_in_place_keeps_jobs_repairDB :
    let db₂ := { repairDB with config := { repairDB.config with healTimeout := 1200 } }
    let sched := register (fun _ => true) (register (fun _ => true) Sys.init.sched repairDB.key
      repairDB) repairDB.key db₂
    (sched.managed repairDB.key).map ScheduledDB.db = some db₂ ∧
      (∀ e ∈ sched.cron.entries, e.job.run.db = repairDB) ∧
      ∃ s, Reachable (fun _ => true) s ∧ s.sched = sched ∧ s.running = [.runTriage repairDB] :=
  register_in_place_keeps_jobs (fun _ => true) repairDB.key repairDB _ rfl rfl rfl rfl
    (by decide) (by decide) rfl

end Controller
end Hasteward
