import Hasteward.Controller.Scheduler
import Hasteward.Restic.Retention
import Hasteward.Go.Text
import Mathlib.Data.List.DropRight

/-!
# The operator's `Reconcile`

`DatabaseReconciler.Reconcile` in `controller/database_controller.go` is what turns a database
resource into scheduler state.  It fetches the resource and deregisters the database's key
(`engine/namespace/name`) when the resource is gone, carries no `policy` annotation, or is
annotated `exclude: "true"`.  Otherwise it fetches the named `BackupPolicy`, resolves the
configuration with `v1alpha1.ParseAnnotations` (the policy's values, each overridden by the
resource's annotation when there is one), `Register`s it, and patches the `managed` annotation on
when it is not there yet.  A failed fetch of the policy changes nothing: the database keeps the
schedule it had.

What the API server answers is a `Fetched`: the resource's annotations, and each policy by name.
Metrics, logs and `updateTriageAnnotation`, which does nothing, are left out.

`Hasteward.Controller.Scheduler` models the operator as steps `Register`, `Deregister`, a cron
firing, or a job's step, with any database under any key.  Here the `Register`s are the ones
`Reconcile` makes:

* `reconcile_sched`: a `Reconcile` is the step `reconcileEvent` of that model, a `register` of
  the database under its own key, a `deregister`, or nothing; so every invariant proved there of
  `Reachable` states holds across any interleaving of reconciles with firings and job steps.
* `reconcile_registers`: a `Reconcile` changes the record of its own key only, and records there
  the database with the configuration `ParseAnnotations` resolves over the policy.
* `KeyedReachable.entries_registered`: over every such run, every cron entry runs a database that
  is registered under that database's own key.  So after a `Reconcile` that finds the resource
  gone, opted out or excluded, no entry is left that runs it (`reconcile_optOut`).  Jobs already
  started run on: the scheduler does not stop them.
* `reconcile_idempotent`: a second `Reconcile` of an unchanged resource and policy, with or
  without the `managed` annotation the first one patched on, leaves the scheduler as the first
  left it, and patches nothing once the annotation is there.
* `splitCSV_csvItems`: the `repositories` annotation reads as a list of names that are not empty,
  hold no comma and are not padded, and such a list written with commas reads back as itself.
-/

set_option autoImplicit false

namespace Hasteward
namespace V1alpha1

/-! ## Annotations and `ParseAnnotations` -/

def annotationPolicy : String := "clinic.hasteward.prplanit.com/policy"
def annotationBackupSchedule : String := "clinic.hasteward.prplanit.com/backup-schedule"
def annotationTriageSchedule : String := "clinic.hasteward.prplanit.com/triage-schedule"
def annotationMode : String := "clinic.hasteward.prplanit.com/mode"
def annotationRepositories : String := "clinic.hasteward.prplanit.com/repositories"
def annotationRetentionKeepLast : String := "clinic.hasteward.prplanit.com/retention-keep-last"
def annotationRetentionKeepDaily : String := "clinic.hasteward.prplanit.com/retention-keep-daily"
def annotationRetentionKeepWeekly : String :=
  "clinic.hasteward.prplanit.com/retention-keep-weekly"
def annotationRetentionKeepMonthly : String :=
  "clinic.hasteward.prplanit.com/retention-keep-monthly"
def annotationExclude : String := "clinic.hasteward.prplanit.com/exclude"
def annotationHealTimeout : String := "clinic.hasteward.prplanit.com/heal-timeout"
def annotationDeleteTimeout : String := "clinic.hasteward.prplanit.com/delete-timeout"
def annotationManaged : String := "clinic.hasteward.prplanit.com/managed"

/-- `BackupPolicySpec`: the cluster-wide defaults. -/
structure BackupPolicySpec where
  backupSchedule : String := ""
  triageSchedule : String := ""
  mode : String := ""
  retention : Restic.RetentionPolicy := {}
  repositories : List String := []
  healTimeout : Int := 0
  deleteTimeout : Int := 0
  deriving DecidableEq, Repr

/-- `EffectiveConfig`: a database's configuration once its annotations are applied. -/
structure EffectiveConfig where
  policyName : String := ""
  backupSchedule : String := ""
  triageSchedule : String := ""
  mode : String := ""
  repositories : List String := []
  retention : Restic.RetentionPolicy := {}
  healTimeout : Int := 0
  deleteTimeout : Int := 0
  excluded : Bool := false
  deriving DecidableEq, Repr

/-- The characters `v1alpha1.trimSpace` trims: the space and the tab, not the other white space
`strings.TrimSpace` trims. -/
def isBlank (c : Char) : Bool := c == ' ' || c == '\t'

/-- `v1alpha1.trimSpace`. -/
def trimSpace (s : String) : String := ⟨(s.data.dropWhile isBlank).rdropWhile isBlank⟩

/-- `splitString(s, sep)`: the parts between the separators, `[""]` for the empty string. -/
def splitString (s : String) (sep : Char) : List String := (s.data.splitOn sep).map String.mk

/-- `splitCSV`: the trimmed parts of a comma list that are not empty. -/
def splitCSV (s : String) : List String := ((splitString s ',').map trimSpace).filter (· ≠ "")

/-- `strconv.Atoi(v)`, when it returns no error. -/
def atoi (v : String) : Option Int := Go.parseInt 10 v

/-- One override of `ParseAnnotations`: the annotation's value as `read` takes it, when the
annotation is there and `read` accepts it, else the value so far. -/
def override {α : Type} (annotations : String → Option String) (key : String)
    (read : String → Option α) (current : α) : α :=
  match annotations key with
  | some v => (read v).getD current
  | none => current

/-- `ParseAnnotations`: the policy's values (the zero values without a policy), each overridden
by its annotation; a number that does not parse leaves the policy's value. -/
def parseAnnotations (annotations : String → Option String) (policy : Option BackupPolicySpec) :
    EffectiveConfig :=
  let p := policy.getD {}
  { policyName := (annotations annotationPolicy).getD ""
    backupSchedule := override annotations annotationBackupSchedule some p.backupSchedule
    triageSchedule := override annotations annotationTriageSchedule some p.triageSchedule
    mode := override annotations annotationMode some p.mode
    repositories := override annotations annotationRepositories (some ∘ splitCSV) p.repositories
    retention :=
      { keepLast := override annotations annotationRetentionKeepLast atoi p.retention.keepLast
        keepDaily := override annotations annotationRetentionKeepDaily atoi p.retention.keepDaily
        keepWeekly := override annotations annotationRetentionKeepWeekly atoi p.retention.keepWeekly
        keepMonthly :=
          override annotations annotationRetentionKeepMonthly atoi p.retention.keepMonthly }
    healTimeout := override annotations annotationHealTimeout atoi p.healTimeout
    deleteTimeout := override annotations annotationDeleteTimeout atoi p.deleteTimeout
    excluded := override annotations annotationExclude (fun v => some (v == "true")) false }

/-- The fields of the configuration the scheduler and its jobs read. -/
def EffectiveConfig.scheduled (cfg : EffectiveConfig) : Controller.EffectiveConfig :=
  ⟨cfg.backupSchedule, cfg.triageSchedule, cfg.mode, cfg.repositories, cfg.healTimeout,
    cfg.deleteTimeout⟩

/-- The annotations once the merge patch `Reconcile` sends has set `managed` to `"true"`. -/
def withManaged (annotations : String → Option String) : String → Option String :=
  fun k => if k = annotationManaged then some "true" else annotations k

/-- `ParseAnnotations` does not read the `managed` annotation. -/
theorem parseAnnotations_withManaged (annotations : String → Option String)
    (policy : Option BackupPolicySpec) :
    parseAnnotations (withManaged annotations) policy = parseAnnotations annotations policy := by
  simp [parseAnnotations, override, withManaged, annotationManaged, annotationPolicy,
    annotationBackupSchedule, annotationTriageSchedule, annotationMode, annotationRepositories,
    annotationRetentionKeepLast, annotationRetentionKeepDaily, annotationRetentionKeepWeekly,
    annotationRetentionKeepMonthly, annotationExclude, annotationHealTimeout,
    annotationDeleteTimeout]

/-! ## The `repositories` annotation -/

/-- A name `splitCSV` gives back as it is: not empty, with no comma, and no space or tab at either
end. -/
def CsvItem (r : String) : Prop := r ≠ "" ∧ ',' ∉ r.data ∧ trimSpace r = r

instance : DecidablePred CsvItem := fun r =>
  inferInstanceAs (Decidable (r ≠ "" ∧ ',' ∉ r.data ∧ trimSpace r = r))

theorem trimSpace_trimSpace (s : String) : trimSpace (trimSpace s) = trimSpace s := by
  simp only [trimSpace, Go.dropWhile_rdropWhile, List.dropWhile_idempotent,
    List.rdropWhile_idempotent]

theorem mem_of_mem_trimSpace {c : Char} {s : String} (h : c ∈ (trimSpace s).data) : c ∈ s.data :=
  ((List.rdropWhile_prefix isBlank (s.data.dropWhile isBlank)).subset.trans
    (List.dropWhile_suffix isBlank).subset) h

/-- No part of a split holds the separator. -/
theorem splitOnP_go_not {α : Type} (p : α → Bool) :
    ∀ (xs acc : List α), (∀ a ∈ acc, p a = false) →
      ∀ l ∈ List.splitOnP.go p xs acc, ∀ a ∈ l, p a = false
  | [], acc, h => by simpa [List.splitOnP.go] using h
  | x :: xs, acc, h => by
    unfold List.splitOnP.go
    split
    · intro l hl
      rcases List.mem_cons.1 hl with rfl | hl
      · simpa using h
      · exact splitOnP_go_not p xs [] (by simp) l hl
    · next hx =>
      refine splitOnP_go_not p xs (x :: acc) ?_
      simpa [hx] using h

theorem comma_not_mem_splitString {s : String} :
    ∀ part ∈ splitString s ',', ',' ∉ part.data := by
  simp only [splitString, List.mem_map]
  rintro _ ⟨l, hl, rfl⟩ hc
  simpa using splitOnP_go_not (· == ',') s.data [] (by simp) l hl ',' hc

/-- **The `repositories` annotation.**  `splitCSV` reads every text as a list of names that are
not empty, hold no comma and have no space or tab at either end; and such a list, written with
commas between the names, reads back as itself. -/
theorem splitCSV_csvItems :
    (∀ s, ∀ r ∈ splitCSV s, CsvItem r) ∧
      ∀ repos : List String, (∀ r ∈ repos, CsvItem r) → splitCSV (",".intercalate repos) = repos := by
  refine ⟨fun s r hr => ?_, fun repos hrepos => ?_⟩
  · obtain ⟨hr, hne⟩ := List.mem_filter.1 hr
    obtain ⟨part, hpart, rfl⟩ := List.mem_map.1 hr
    exact ⟨of_decide_eq_true hne, fun hc => comma_not_mem_splitString part hpart
      (mem_of_mem_trimSpace hc), trimSpace_trimSpace part⟩
  · by_cases hnil : repos = []
    · subst hnil; rfl
    · have hsplit : splitString (",".intercalate repos) ',' = repos := by
        rw [splitString, ← Go.splitOn_single]
        exact Go.splitOn_intercalate_single ',' (fun r h => (hrepos r h).2.1) hnil
      rw [splitCSV, hsplit, List.map_congr_left fun r h => (hrepos r h).2.2, List.map_id']
      exact List.filter_eq_self.2 fun r h => decide_eq_true (hrepos r h).1

theorem splitCSV_csvItems_backups :
    (∀ r ∈ ["s3-offsite", "nas"], CsvItem r) ∧ splitCSV "s3-offsite,nas" = ["s3-offsite", "nas"] :=
  ⟨by decide, splitCSV_csvItems.2 ["s3-offsite", "nas"] (by decide)⟩

end V1alpha1

namespace Controller

open V1alpha1

/-! ## `Reconcile` -/

/-- What a `client.Get` answers. -/
inductive Fetched (α : Type)
  | found (a : α)
  | notFound
  | failed (err : String)

/-- The resource once the `managed` annotation is patched on. -/
def Fetched.withManaged : Fetched (String → Option String) → Fetched (String → Option String)
  | .found annotations => .found (V1alpha1.withManaged annotations)
  | cr => cr

/-- What a `Reconcile` leaves: the scheduler, whether it sends the patch that sets the `managed`
annotation, and the error it returns. -/
structure Reconciled where
  sched : Scheduler
  patchManaged : Bool
  result : Except String Unit

variable (parses : String → Bool) (engine ns name : String)
  (cr : Fetched (String → Option String)) (policies : String → Fetched BackupPolicySpec)

/-- `Reconcile` of the database `ns/name` of `engine`, given the resource's annotations and the
policies the API server holds. -/
def reconcile (s : Scheduler) : Reconciled :=
  let dbKey := engine ++ "/" ++ ns ++ "/" ++ name
  match cr with
  | .notFound => ⟨deregisterLocked s dbKey, false, .ok ()⟩
  | .failed err => ⟨s, false, .error err⟩
  | .found annotations =>
    let policyName := (annotations annotationPolicy).getD ""
    if policyName = "" then ⟨deregisterLocked s dbKey, false, .ok ()⟩
    else if (annotations annotationExclude).getD "" = "true" then
      ⟨deregisterLocked s dbKey, false, .ok ()⟩
    else
      match policies policyName with
      | .found policy =>
        ⟨register parses s dbKey
            ⟨ns, name, engine, (parseAnnotations annotations (some policy)).scheduled⟩,
          (annotations annotationManaged).getD "" != "true", .ok ()⟩
      | _ => ⟨s, false, .ok ()⟩

/-- The step of the operator model a `Reconcile` is: the `Register` or `Deregister` it calls, if
any.  It depends on what the API server answers, not on the scheduler. -/
def reconcileEvent : Option Event :=
  let dbKey := engine ++ "/" ++ ns ++ "/" ++ name
  match cr with
  | .notFound => some (.deregister dbKey)
  | .failed _ => none
  | .found annotations =>
    let policyName := (annotations annotationPolicy).getD ""
    if policyName = "" ∨ (annotations annotationExclude).getD "" = "true" then
      some (.deregister dbKey)
    else
      match policies policyName with
      | .found policy =>
        some (.register dbKey
          ⟨ns, name, engine, (parseAnnotations annotations (some policy)).scheduled⟩)
      | _ => none

/-- What an event of the operator model does to the scheduler. -/
def Event.apply (parses : String → Bool) (s : Scheduler) : Option Event → Scheduler
  | some (.register key db) => Controller.register parses s key db
  | some (.deregister key) => deregisterLocked s key
  | _ => s

/-- **`Reconcile` is a step of the operator model.** -/
theorem reconcile_sched (s : Scheduler) :
    (reconcile parses engine ns name cr policies s).sched =
      Event.apply parses s (reconcileEvent engine ns name cr policies) := by
  unfold reconcile reconcileEvent
  cases cr with
  | found annotations =>
    dsimp only
    by_cases hp : (annotations annotationPolicy).getD "" = ""
    · simp [hp, Event.apply]
    by_cases hx : (annotations annotationExclude).getD "" = "true"
    · simp [hp, hx, Event.apply]
    rw [if_neg hp, if_neg hx, if_neg (not_or.2 ⟨hp, hx⟩)]
    cases policies ((annotations annotationPolicy).getD "") <;> rfl
  | notFound => rfl
  | failed err => rfl

/-- A step that registers a database only under its own key, as `Reconcile` does. -/
def Event.Keyed : Event → Prop
  | .register key db => db.key = key
  | _ => True

theorem reconcileEvent_keyed {e : Event} (h : reconcileEvent engine ns name cr policies = some e) :
    e.Keyed ∧ ((∃ key db, e = .register key db) ∨ ∃ key, e = .deregister key) := by
  unfold reconcileEvent at h
  split at h
  · cases h; exact ⟨trivial, .inr ⟨_, rfl⟩⟩
  · cases h
  · dsimp only at h
    split at h
    · cases h; exact ⟨trivial, .inr ⟨_, rfl⟩⟩
    · split at h
      · cases h; exact ⟨rfl, .inl ⟨_, _, rfl⟩⟩
      · cases h

/-- The step a `Reconcile` is acts on the database's own key. -/
theorem reconcileEvent_key {e : Event} (h : reconcileEvent engine ns name cr policies = some e) :
    (∃ db, e = .register (engine ++ "/" ++ ns ++ "/" ++ name) db) ∨
      e = .deregister (engine ++ "/" ++ ns ++ "/" ++ name) := by
  unfold reconcileEvent at h
  split at h
  · cases h; exact .inr rfl
  · cases h
  · dsimp only at h
    split at h
    · cases h; exact .inr rfl
    · split at h
      · cases h; exact .inl ⟨_, rfl⟩
      · cases h

/-- A `Reconcile` takes a reachable state of the operator to a reachable state, the jobs in
progress unchanged. -/
theorem reconcile_step (sys : Sys) :
    (∃ e, (reconcileEvent engine ns name cr policies = some e ∧ e.Keyed) ∧
      step parses sys e = some ⟨(reconcile parses engine ns name cr policies sys.sched).sched,
        sys.running⟩) ∨
      (reconcile parses engine ns name cr policies sys.sched).sched = sys.sched := by
  rw [reconcile_sched]
  cases he : reconcileEvent engine ns name cr policies with
  | none => exact .inr rfl
  | some e =>
    obtain ⟨hk, ⟨key, db, rfl⟩ | ⟨key, rfl⟩⟩ := reconcileEvent_keyed engine ns name cr policies he
    · exact .inl ⟨_, ⟨rfl, hk⟩, rfl⟩
    · exact .inl ⟨_, ⟨rfl, hk⟩, rfl⟩

/-! ## Every cron entry runs a registered database -/

/-- The states of the operator whose `Register`s are the ones `Reconcile` makes: each database
under its own key. -/
inductive KeyedReachable (parses : String → Bool) : Sys → Prop
  | init : KeyedReachable parses .init
  | step {s s' : Sys} (e : Event) : e.Keyed → KeyedReachable parses s → step parses s e = some s' →
      KeyedReachable parses s'

theorem KeyedReachable.reachable {s : Sys} (h : KeyedReachable parses s) : Reachable parses s := by
  induction h with
  | init => exact .init
  | step e _ _ hs ih => exact .step e ih hs

theorem KeyedReachable.reconcile {sys : Sys} (h : KeyedReachable parses sys) :
    KeyedReachable parses
      ⟨(Controller.reconcile parses engine ns name cr policies sys.sched).sched, sys.running⟩ := by
  rcases reconcile_step parses engine ns name cr policies sys with ⟨e, ⟨-, hk⟩, he⟩ | he
  · exact .step e hk h he
  · rw [he]
    exact h

/-- Every recorded database is recorded under its own key, and every entry recorded under a key
runs a database of that key. -/
structure Keyed (s : Scheduler) : Prop where
  db_key : ∀ key sdb, s.managed key = some sdb → sdb.db.key = key
  runs : ∀ key sdb, s.managed key = some sdb → ∀ e ∈ s.cron.entries, e.id ∈ sdb.ids →
    e.job.run.db.key = key

section Keyed

variable {s : Scheduler}

theorem keyed_init : Keyed Sys.init.sched := ⟨by simp [Sys.init], by simp [Sys.init]⟩

theorem Keyed.deregister (hk : Keyed s) (key : String) : Keyed (deregisterLocked s key) := by
  cases h : s.managed key with
  | none =>
    unfold deregisterLocked
    rw [h]
    exact hk
  | some sdb =>
    rw [deregisterLocked_of_some h]
    have hkey : ∀ {k sdb'}, setManaged s.managed key none k = some sdb' → s.managed k = some sdb' :=
      fun hk' => ((setManaged_eq_some.1 hk').resolve_left fun ⟨_, h⟩ => nomatch h).2
    exact ⟨fun k sdb' h' => hk.db_key k sdb' (hkey h'),
      fun k sdb' h' e he => hk.runs k sdb' (hkey h') e (List.mem_filter.1 he).1⟩

theorem Keyed.update (hk : Keyed s) {key : String} {existing : ScheduledDB}
    (h : s.managed key = some existing) {db : ManagedDB} (hdb : db.key = key) :
    Keyed { s with managed := setManaged s.managed key (some { existing with db := db }) } := by
  constructor <;> intro k sdb' hk' <;> rcases setManaged_eq_some.1 hk' with ⟨rfl, hs⟩ | ⟨-, hk'⟩
  · cases hs; exact hdb
  · exact hk.db_key k sdb' hk'
  · cases hs; exact hk.runs k existing h
  · exact hk.runs k sdb' hk'

/-- Recording new entries for `sdb` under a key `managed` does not hold keeps `Keyed`, when the
new entries run `sdb`'s database and it has that key. -/
theorem Keyed.add (hk : Keyed s) (hb : Bookkept s) {key : String} {c : Cron} {sdb : ScheduledDB}
    (hnone : s.managed key = none) (hg : s.cron.Grows c sdb.ids) (hdb : sdb.db.key = key)
    (hruns : ∀ e ∈ c.entries, e ∈ s.cron.entries ∨ e.job.run.db = sdb.db) :
    Keyed ⟨c, setManaged s.managed key (some sdb)⟩ := by
  obtain ⟨new, he, hm⟩ := hg.entries
  -- an old entry's id is no new id, and a new entry's id is no old one
  have hold : ∀ e ∈ s.cron.entries, e.id ∉ sdb.ids := fun e h hid => by
    have := (hb.fresh e h).2
    have := (hg.fresh e.id hid).1
    omega
  constructor <;> intro k sdb' hk' <;> rcases setManaged_eq_some.1 hk' with ⟨rfl, hs⟩ | ⟨-, hk'⟩
  · cases hs; exact hdb
  · exact hk.db_key k sdb' hk'
  · cases hs
    intro e hmem hid
    rcases hruns e hmem with h | h
    · exact absurd hid (hold e h)
    · rw [h, hdb]
  · intro e hmem hid
    rw [he, List.mem_append] at hmem
    rcases hmem with h | h
    · exact hk.runs k sdb' hk' e h hid
    · have := (hg.fresh e.id (hm ▸ List.mem_map_of_mem _ h)).1
      have := hb.id_le hk' hid
      omega

theorem Keyed.register (hk : Keyed s) (hb : Bookkept s) {key : String} {db : ManagedDB}
    (hdb : db.key = key) : Keyed (register parses s key db) := by
  -- the entries `addEntries` makes, recorded under `key` for `db`
  have hadd : ∀ s' : Scheduler, Keyed s' → Bookkept s' → s'.managed key = none →
      Keyed (addEntries parses s' key db) := fun s' hk' hb' hnone => by
    obtain ⟨c, sdb, he, hg⟩ := addEntries_grows parses db s' key
    have hsdb : sdb.db = db := by
      have := congrArg (fun s => s.managed key) he
      simp only [addEntries, setManaged_self, Option.some_inj] at this
      exact this ▸ rfl
    have hruns := addEntries_runs parses db s' key
    rw [he] at hruns ⊢
    exact hk'.add hb' hnone hg (hsdb ▸ hdb) (hsdb ▸ hruns)
  unfold Controller.register
  split
  next existing h =>
    split
    · exact hk.update h hdb
    · exact hadd _ (hk.deregister key) (hb.deregister key) (deregisterLocked_managed s key)
  next h => exact hadd s hk hb h

end Keyed

theorem KeyedReachable.keyed {sys : Sys} (h : KeyedReachable parses sys) : Keyed sys.sched := by
  induction h with
  | init => exact keyed_init
  | step e he hr hs ih =>
    have hb := (KeyedReachable.reachable parses hr).bookkept
    rcases step_sched hs with ⟨key, db, rfl, h'⟩ | ⟨key, -, h'⟩ | h' <;> rw [h']
    · exact ih.register parses hb he
    · exact ih.deregister key
    · exact ih

/-- Over every run of reconciles, cron firings and job steps, every cron entry runs a database
registered under its own key, with the entry's id recorded for it. -/
theorem KeyedReachable.entries_registered {sys : Sys} (h : KeyedReachable parses sys) :
    ∀ e ∈ sys.sched.cron.entries, ∃ sdb, sys.sched.managed e.job.run.db.key = some sdb ∧
      e.id ∈ sdb.ids := by
  intro e he
  obtain ⟨key, sdb, hk, hid⟩ := (KeyedReachable.reachable parses h).bookkept.recorded e he
  exact ⟨sdb, ((KeyedReachable.keyed parses h).runs key sdb hk e he hid).symm ▸ hk, hid⟩

/-- **Opting out.**  In every state of the operator reached by reconciles, firings and job steps,
a `Reconcile` that finds the database's resource gone, without a `policy` annotation, or
annotated `exclude: "true"` leaves it unregistered, and no cron entry that runs it. -/
theorem reconcile_optOut {sys : Sys} (h : KeyedReachable parses sys)
    (hout : cr = .notFound ∨ ∃ annotations, cr = .found annotations ∧
      ((annotations annotationPolicy).getD "" = "" ∨
        (annotations annotationExclude).getD "" = "true")) :
    (reconcile parses engine ns name cr policies sys.sched).sched.managed
        (engine ++ "/" ++ ns ++ "/" ++ name) = none ∧
      ∀ e ∈ (reconcile parses engine ns name cr policies sys.sched).sched.cron.entries,
        e.job.run.db.key ≠ engine ++ "/" ++ ns ++ "/" ++ name := by
  have hev : reconcileEvent engine ns name cr policies =
      some (.deregister (engine ++ "/" ++ ns ++ "/" ++ name)) := by
    rcases hout with rfl | ⟨annotations, rfl, hp⟩
    · rfl
    · simp only [reconcileEvent, if_pos hp]
  have hnone : (reconcile parses engine ns name cr policies sys.sched).sched.managed
      (engine ++ "/" ++ ns ++ "/" ++ name) = none := by
    rw [reconcile_sched, hev]
    exact deregisterLocked_managed _ _
  refine ⟨hnone, fun e he hkey => ?_⟩
  obtain ⟨sdb, hs, -⟩ := (h.reconcile parses engine ns name cr policies).entries_registered
    parses e he
  rw [hkey, hnone] at hs
  cases hs

theorem reconcile_optOut_deleted :
    (Fetched.notFound : Fetched (String → Option String)) = .notFound ∧
      (reconcile (fun _ => true) "cnpg" "pg" "pg" .notFound (fun _ => .notFound)
          Sys.init.sched).sched.managed "cnpg/pg/pg" = none ∧
      ∀ e ∈ (reconcile (fun _ => true) "cnpg" "pg" "pg" .notFound (fun _ => .notFound)
          Sys.init.sched).sched.cron.entries, e.job.run.db.key ≠ "cnpg/pg/pg" :=
  ⟨rfl, reconcile_optOut (fun _ => true) "cnpg" "pg" "pg" .notFound (fun _ => .notFound)
    KeyedReachable.init (.inl rfl)⟩

/-! ## Reconciling again changes nothing -/

theorem register_managed (s : Scheduler) (key : String) (db : ManagedDB) :
    ∃ sdb, (register parses s key db).managed key = some sdb ∧ sdb.db = db := by
  unfold Controller.register
  split
  · split
    · exact ⟨_, setManaged_self .., rfl⟩
    · exact ⟨_, setManaged_self .., rfl⟩
  · exact ⟨_, setManaged_self .., rfl⟩

theorem deregisterLocked_managed_ne (s : Scheduler) {key k : String} (hk : k ≠ key) :
    (deregisterLocked s key).managed k = s.managed k := by
  unfold deregisterLocked
  split
  · rfl
  · exact setManaged_ne _ _ hk

/-- `Register` touches the record of its own key only. -/
theorem register_managed_ne (s : Scheduler) {key k : String} (db : ManagedDB) (hk : k ≠ key) :
    (register parses s key db).managed k = s.managed k := by
  unfold Controller.register
  split
  · split
    · exact setManaged_ne _ _ hk
    · exact (setManaged_ne _ _ hk).trans (deregisterLocked_managed_ne s hk)
  · exact setManaged_ne _ _ hk

/-- **What a `Reconcile` records.**  In every state of the operator reached by reconciles,
firings and job steps, a `Reconcile` of `ns/name` changes the record of its own key
`engine/ns/name` only; when the resource names a policy the API server returns and is not
excluded, it records there the database with the configuration `ParseAnnotations` resolves from
the resource's annotations over the policy.  The state it reaches is again one of those states,
so every invariant of them holds of it. -/
theorem reconcile_registers {sys : Sys} (h : KeyedReachable parses sys) :
    let r := (reconcile parses engine ns name cr policies sys.sched).sched
    let dbKey := engine ++ "/" ++ ns ++ "/" ++ name
    KeyedReachable parses ⟨r, sys.running⟩ ∧
      (∀ k, k ≠ dbKey → r.managed k = sys.sched.managed k) ∧
      ∀ annotations policy, cr = .found annotations →
        (annotations annotationPolicy).getD "" ≠ "" →
        (annotations annotationExclude).getD "" ≠ "true" →
        policies ((annotations annotationPolicy).getD "") = .found policy →
        ∃ sdb, r.managed dbKey = some sdb ∧
          sdb.db = ⟨ns, name, engine, (parseAnnotations annotations (some policy)).scheduled⟩ := by
  intro r dbKey
  refine ⟨KeyedReachable.reconcile parses engine ns name cr policies h, fun k hk => ?_, ?_⟩
  · simp only [r, reconcile_sched]
    cases he : reconcileEvent engine ns name cr policies with
    | none => rfl
    | some e =>
      rcases reconcileEvent_key engine ns name cr policies he with ⟨db, rfl⟩ | rfl
      · exact register_managed_ne parses _ db hk
      · exact deregisterLocked_managed_ne _ hk
  · rintro annotations policy rfl hp hx hpol
    simp only [r, reconcile, if_neg hp, if_neg hx, hpol]
    exact register_managed parses _ _ _

theorem reconcile_registers_nightly :
    KeyedReachable (fun _ => true) Sys.init ∧
      let r := (reconcile (fun _ => true) "cnpg" "db" "pg"
        (.found fun k => if k = annotationPolicy then some "nightly" else none)
        (fun _ => .found { mode := "repair" }) Sys.init.sched).sched
      KeyedReachable (fun _ => true) ⟨r, Sys.init.running⟩ ∧
        (∀ k, k ≠ "cnpg" ++ "/" ++ "db" ++ "/" ++ "pg" → r.managed k = Sys.init.sched.managed k) ∧
        ∀ annotations policy,
          (Fetched.found fun k => if k = annotationPolicy then some "nightly" else none) =
            .found annotations →
          (annotations annotationPolicy).getD "" ≠ "" →
          (annotations annotationExclude).getD "" ≠ "true" →
          (Fetched.found { mode := "repair" } : Fetched BackupPolicySpec) = .found policy →
          ∃ sdb, r.managed ("cnpg" ++ "/" ++ "db" ++ "/" ++ "pg") = some sdb ∧
            sdb.db = ⟨"db", "pg", "cnpg", (parseAnnotations annotations (some policy)).scheduled⟩ :=
  ⟨.init, reconcile_registers _ _ _ _ _ _ .init⟩

/-- A `Register` of the database a key already records changes nothing. -/
theorem register_of_current {s : Scheduler} {key : String} {sdb : ScheduledDB}
    (h : s.managed key = some sdb) : register parses s key sdb.db = s := by
  have hm : setManaged s.managed key (some sdb) = s.managed := by
    funext k
    by_cases hk : k = key
    · rw [hk, setManaged_self, h]
    · exact setManaged_ne _ _ hk
  unfold Controller.register
  rw [h]
  simp [reposEqual_self, hm]

theorem deregisterLocked_of_none {s : Scheduler} {key : String} (h : s.managed key = none) :
    deregisterLocked s key = s := by
  unfold deregisterLocked
  rw [h]

/-- Applying the same `Register` or `Deregister` twice is applying it once. -/
theorem Event.apply_apply (s : Scheduler) (e : Option Event) :
    Event.apply parses (Event.apply parses s e) e = Event.apply parses s e := by
  match e with
  | some (.register key db) =>
    obtain ⟨sdb, h, rfl⟩ := register_managed parses s key db
    exact register_of_current parses h
  | some (.deregister key) => exact deregisterLocked_of_none (deregisterLocked_managed s key)
  | some (.fire _) | some (.triaged _ _) | some (.finish _) | none => rfl

theorem reconcileEvent_withManaged :
    reconcileEvent engine ns name cr.withManaged policies = reconcileEvent engine ns name cr policies := by
  cases cr with
  | found annotations =>
    have hp : V1alpha1.withManaged annotations annotationPolicy = annotations annotationPolicy :=
      if_neg (by decide)
    have hx : V1alpha1.withManaged annotations annotationExclude = annotations annotationExclude :=
      if_neg (by decide)
    simp only [reconcileEvent, Fetched.withManaged, hp, hx, parseAnnotations_withManaged]
  | notFound => rfl
  | failed err => rfl

/-- **`Reconcile` is idempotent.**  Reconciling the same resource and policies again, before or
after the `managed` annotation the first `Reconcile` sent has landed, leaves the scheduler as the
first `Reconcile` left it; and once the annotation is there, no patch is sent. -/
theorem reconcile_idempotent (s : Scheduler) {cr' : Fetched (String → Option String)}
    (hcr : cr' = cr ∨ cr' = cr.withManaged) :
    (reconcile parses engine ns name cr' policies
        (reconcile parses engine ns name cr policies s).sched).sched =
      (reconcile parses engine ns name cr policies s).sched ∧
      (reconcile parses engine ns name cr.withManaged policies s).patchManaged = false := by
  have hev : reconcileEvent engine ns name cr' policies = reconcileEvent engine ns name cr policies := by
    rcases hcr with rfl | rfl
    · rfl
    · exact reconcileEvent_withManaged engine ns name cr policies
  refine ⟨by rw [reconcile_sched, reconcile_sched, hev, Event.apply_apply], ?_⟩
  cases cr with
  | found annotations =>
    simp only [reconcile, Fetched.withManaged]
    split_ifs <;> try rfl
    split <;> simp [V1alpha1.withManaged]
  | notFound => rfl
  | failed err => rfl

theorem reconcile_idempotent_opted :
    let cr : Fetched (String → Option String) :=
      .found fun k => if k = annotationPolicy then some "nightly" else none
    (cr = cr ∨ cr = cr.withManaged) ∧
      (reconcile (fun _ => true) "cnpg" "pg" "pg" cr (fun _ => .found { mode := "repair" })
          (reconcile (fun _ => true) "cnpg" "pg" "pg" cr (fun _ => .found { mode := "repair" })
            Sys.init.sched).sched).sched =
        (reconcile (fun _ => true) "cnpg" "pg" "pg" cr (fun _ => .found { mode := "repair" })
          Sys.init.sched).sched ∧
      (reconcile (fun _ => true) "cnpg" "pg" "pg" cr.withManaged
          (fun _ => .found { mode := "repair" }) Sys.init.sched).patchManaged = false :=
  ⟨.inl rfl, reconcile_idempotent _ _ _ _ _ _ _ (.inl rfl)⟩

end Controller
end Hasteward
