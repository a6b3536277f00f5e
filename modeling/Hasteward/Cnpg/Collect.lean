import Hasteward.Collect
import Hasteward.Cnpg.Lsn
import Hasteward.Go.Time

/-!
# CNPG triage: what the collection gathers

`triageCollect` in `engine/cnpg/triage.go` builds the `TriageData` that `Hasteward.Cnpg.Triage`
judges.  The instances it expects are the cluster's `status.instanceNames`, or `<cluster>-1` to
`<cluster>-<instances>` when that list is empty.  For every instance it reads `pg_controldata`:
in the pod when the pod runs and is not crash-looping (`exec`); else in a probe pod over the
instance's volume claim when the claim is `Bound` (`pvc_probe`, or `none` when the probe printed
nothing); else it records `unknown`s (`none`).  It asks the current primary, when it runs, which
replicas are streaming.

The API server and the pods are an `Observed`, as for Galera; the one Go map iterated is the
probe results, visited in the order `probeOrder`.

* `triageCollect_controlData`: for every observation and probe order, the instances with a
  record are the expected ones and the healthy pods `pg_controldata` was read in, each record is
  the one the instance's first working source gives (`controlDataOf`), and each carries its pod's
  crash reason.
* `triageCollect_primary`: the primary record the split-brain check starts from is that record
  of the current primary, or the `unknown` record when the primary has none.
* `parseControlData_keyLines`: on a `key: value` text, the timeline and the checkpoint location
  read are the trimmed values of the last line of their key; `parseControlData_pgControldata`
  follows them to the numbers the analysis compares.
* `streamingReplicas_rows` and `triageCollect_streaming`: the streaming replicas are the
  `application_name`s of the rows the primary's `pg_stat_replication` query printed with the
  state `streaming`.
* `triage_instances`: the assessments `Triage` returns are of distinct instances when the
  expected names are distinct.  Nothing in the code makes the names of `status.instanceNames`
  distinct: with a name listed twice and no record for it, the fallback loop adds two records.
-/

set_option autoImplicit false

namespace Hasteward
namespace Cnpg

open Go

/-! ## Reading `pg_controldata` -/

/-- One line of `parseControlData`'s loop.  The cluster state, the time of the checkpoint and the
minimum recovery end set fields only the display reads; every value is trimmed, as the record's
fields require. -/
def controlDataLine (cd : ControlData) (line : String) : ControlData :=
  let line := trimSpace line
  if hasPrefix line "Database cluster state:" then cd
  else if hasPrefix line "Latest checkpoint's TimeLineID:" then
    { cd with timeline := readValue line, timeline_trimmed := trimmed_trimSpace _ }
  else if hasPrefix line "Latest checkpoint location:" then
    { cd with
      checkpointLocation := readValue line
      checkpointLocation_trimmed := trimmed_trimSpace _ }
  else cd

/-- `parseControlData`: the timeline and the checkpoint location of a `pg_controldata` output,
the last line of each key winning, `unknown` where there is none.  The probe loop fills in
`crashReason`. -/
def parseControlData (pod source raw : String) : ControlData :=
  (raw.splitOn "\n").foldl controlDataLine
    ⟨pod, source, "unknown", "unknown", "", by decide, by decide⟩

/-- The record of an instance nothing could be read for. -/
def ControlData.none (n : String) : ControlData :=
  ⟨n, "none", "unknown", "unknown", "", by decide, by decide⟩

/-! ## `pg_controldata`'s text, read back -/

/-- A readable line sets the timeline or the checkpoint location when it is that key's line, to
its trimmed value, and leaves both alone otherwise; the cluster state's line included. -/
theorem controlDataLine_text (cd : ControlData) {l : KeyLine} (hl : l.Readable) :
    (controlDataLine cd l.text).timeline =
        (if l.key = "Latest checkpoint's TimeLineID" then trimSpace l.value else cd.timeline) ∧
      (controlDataLine cd l.text).checkpointLocation =
        (if l.key = "Latest checkpoint location" then trimSpace l.value
          else cd.checkpointLocation) := by
  have key : ∀ k : String, ':' ∉ k.data →
      hasPrefix (trimSpace l.text) ⟨k.data ++ [':']⟩ = decide (l.key = k) :=
    fun _ hk => l.hasPrefix_text hl hk
  unfold controlDataLine
  dsimp only
  rw [show ("Database cluster state:" : String) = ⟨"Database cluster state".data ++ [':']⟩ from rfl,
    show ("Latest checkpoint's TimeLineID:" : String) =
      ⟨"Latest checkpoint's TimeLineID".data ++ [':']⟩ from rfl,
    show ("Latest checkpoint location:" : String) =
      ⟨"Latest checkpoint location".data ++ [':']⟩ from rfl,
    key _ (by decide), key _ (by decide), key _ (by decide)]
  obtain ⟨k, pad, v⟩ := l
  by_cases h₁ : k = "Database cluster state"
  · subst h₁; simp
  by_cases h₂ : k = "Latest checkpoint's TimeLineID"
  · subst h₂; simp [KeyLine.readValue_text hl]
  by_cases h₃ : k = "Latest checkpoint location"
  · subst h₃; simp [KeyLine.readValue_text hl]
  simp [h₁, h₂, h₃]

/-- `parseControlData`'s loop over readable lines keeps, for the timeline and the checkpoint
location, the trimmed value of the last line of the key, or what the record had. -/
theorem foldl_controlDataLine_text (cd : ControlData) {ls : List KeyLine}
    (hls : ∀ l ∈ ls, l.Readable) :
    ((ls.map KeyLine.text).foldl controlDataLine cd).timeline =
        (lastValue ls "Latest checkpoint's TimeLineID").getD cd.timeline ∧
      ((ls.map KeyLine.text).foldl controlDataLine cd).checkpointLocation =
        (lastValue ls "Latest checkpoint location").getD cd.checkpointLocation := by
  induction ls generalizing cd with
  | nil => exact ⟨rfl, rfl⟩
  | cons l ls ih =>
    obtain ⟨ht, hc⟩ := controlDataLine_text cd (hls l (List.mem_cons_self l ls))
    rw [List.map_cons, List.foldl_cons, lastValue_cons_getD, lastValue_cons_getD, ← ht, ← hc]
    exact ih _ fun l' h => hls l' (List.mem_cons_of_mem l h)

/-- **`pg_controldata` read back.**  On a text of readable `key: value` lines, such as
`pg_controldata` prints, the record's timeline and checkpoint location are the trimmed values of
the last line of their key, `unknown` where no line has it. -/
theorem parseControlData_keyLines (pod source : String) {ls : List KeyLine}
    (hls : ∀ l ∈ ls, l.Readable) :
    (parseControlData pod source ("\n".intercalate (ls.map KeyLine.text))).timeline =
        (lastValue ls "Latest checkpoint's TimeLineID").getD "unknown" ∧
      (parseControlData pod source ("\n".intercalate (ls.map KeyLine.text))).checkpointLocation =
        (lastValue ls "Latest checkpoint location").getD "unknown" := by
  by_cases hne : ls = []
  · subst hne
    rw [parseControlData, show ("\n".intercalate (([] : List KeyLine).map KeyLine.text)).splitOn "\n" =
      [""] from splitOn_single "" '\n']
    exact ⟨rfl, rfl⟩
  · rw [parseControlData, splitOn_keyLines hls hne]
    exact foldl_controlDataLine_text _ hls

/-- The decimal text of an `int64` is read as that number. -/
theorem parseTimelineInt_toString {t : Int} (h₁ : -2 ^ 63 ≤ t) (h₂ : t < 2 ^ 63) :
    parseTimelineInt (toString t) = t := by
  have hp := parseInt_toString h₁ h₂
  have hne : ¬(toString t = "" ∨ toString t = "unknown") := by
    rintro (h | h) <;> rw [h] at hp <;> cases hp
  rw [parseTimelineInt, trimmed_of_noSpace (isSpace_toString_int t)]
  simp only [if_neg hne, hp, Option.getD_some]

/-- **`pg_controldata`'s numbers.**  On a text of readable `key: value` lines, the timeline and
the LSN the analysis compares come from the last line of their key: a timeline printed in decimal
reads as its number, a location printed as PostgreSQL prints an LSN reads as `hi * 2^32 + lo` in
`int64`, and a key no line has reads as `0`. -/
theorem parseControlData_pgControldata (pod source : String) {ls : List KeyLine}
    (hls : ∀ l ∈ ls, l.Readable) :
    (∀ t : Int, -2 ^ 63 ≤ t → t < 2 ^ 63 →
        lastValue ls "Latest checkpoint's TimeLineID" = some (toString t) →
        parseTimelineInt (parseControlData pod source
          ("\n".intercalate (ls.map KeyLine.text))).timeline = t) ∧
      (lastValue ls "Latest checkpoint's TimeLineID" = none →
        parseTimelineInt (parseControlData pod source
          ("\n".intercalate (ls.map KeyLine.text))).timeline = 0) ∧
      (∀ hi lo : Nat, hi < 2 ^ 32 → lo < 2 ^ 32 →
        lastValue ls "Latest checkpoint location" = some (formatLSN hi lo) →
        parseLSNValue (parseControlData pod source
          ("\n".intercalate (ls.map KeyLine.text))).checkpointLocation =
            wrapInt64 (hi * 4294967296 + lo)) ∧
      (lastValue ls "Latest checkpoint location" = none →
        parseLSNValue (parseControlData pod source
          ("\n".intercalate (ls.map KeyLine.text))).checkpointLocation = 0) := by
  obtain ⟨ht, hc⟩ := parseControlData_keyLines pod source hls
  refine ⟨fun t h₁ h₂ h => ?_, fun h => ?_, fun hi lo hhi hlo h => ?_, fun h => ?_⟩
  · rw [ht, h, Option.getD_some, parseTimelineInt_toString h₁ h₂]
  · rw [ht, h]; rfl
  · rw [hc, h, Option.getD_some, parseLSNValue_formatLSN hhi hlo]
  · rw [hc, h]; rfl

/-- What `pg_controldata` prints of a primary on timeline 2 (the lines triage reads, and one it
skips). -/
def pgControldataSample : List KeyLine :=
  [⟨"pg_control version number", "  ", "1300"⟩,
    ⟨"Database cluster state", "  ", "in production"⟩,
    ⟨"Latest checkpoint location", "  ", "0/3000060"⟩,
    ⟨"Latest checkpoint's TimeLineID", "  ", "2"⟩]

theorem parseControlData_pgControldataSample :
    (∀ l ∈ pgControldataSample, l.Readable) ∧
      parseTimelineInt (parseControlData "pg-1" "exec"
        ("\n".intercalate (pgControldataSample.map KeyLine.text))).timeline = 2 ∧
      parseLSNValue (parseControlData "pg-1" "exec"
        ("\n".intercalate (pgControldataSample.map KeyLine.text))).checkpointLocation =
          50331744 := by
  have hr : ∀ l ∈ pgControldataSample, l.Readable := by decide
  have h := parseControlData_pgControldata "pg-1" "exec" hr
  refine ⟨hr, h.1 2 (by decide) (by decide) (by decide), ?_⟩
  rw [h.2.2.1 0 50331744 (by decide) (by decide) (by decide)]
  rfl

/-! ## What the collection observes -/

/-- What `triageCollect` learns of a CNPG cluster from the API server and the pods: the
instance names in the cluster's status, the pod list, the volume claims' phases, what each
command prints (`none` when the exec or the log read fails), and the order in which it visits
the probe results. -/
structure Observed where
  /-- `status.instanceNames`: each entry's text, `none` for an entry that is not a string. -/
  instanceNames : List (Option String)
  /-- `Pods(ns).List` with the label `cnpg.io/cluster=<cluster>`. -/
  podList : Except String PodList
  /-- The phase of the volume claim of that name; `none` when `Get` fails. -/
  pvcPhase : String → Option String
  /-- The logs of the pod's `postgres` container. -/
  logs : String → Option String
  /-- `pg_controldata /var/lib/postgresql/data/pgdata` in the pod. -/
  pgControldata : String → Option String
  /-- `Pods(ns).Create` of the instance's probe pod succeeds. -/
  probeCreated : String → Bool
  /-- The logs of the instance's probe pod, once it has finished or the wait is over. -/
  probeLogs : String → Option String
  /-- The `pg_stat_replication` query in the pod. -/
  replicationQuery : String → Option String
  /-- `df -h /var/lib/postgresql/data` in the pod. -/
  df : String → Option String
  probeOrder : MapOrder

variable (cfg : Config) (cl : Cluster) (obs : Observed) (pl : PodList)

/-- `data.expectedInstances`: the strings of `status.instanceNames`, or `<cluster>-1` to
`<cluster>-<instances>` when the status lists none. -/
def expectedInstances : List String :=
  if obs.instanceNames = [] then
    ordinalNames cfg.clusterName ((List.range cl.instances.toNat).map (· + 1))
  else obs.instanceNames.filterMap id

/-- `data.pvcStates`: the phase of each expected instance's claim, `MISSING` when it has none,
and Go's `""` for every other name. -/
def pvcState (n : String) : String :=
  if n ∈ expectedInstances cfg cl obs then (obs.pvcPhase n).getD "MISSING" else ""

/-- `data.crashReasons`: `disk_full` for a crash-looping pod whose `postgres` logs report low disk
space. -/
def crashReason : String → String :=
  pl.crashReason obs.logs ["low-disk space condition", "low disk space"]

/-- `healthyControlData` after the exec loop: `pg_controldata` of every running pod that is not
crash-looping, where it worked. -/
def execRecords : List ControlData :=
  pl.healthy.filterMap fun p => (obs.pgControldata p.name).map (parseControlData p.name "exec")

/-- `probeInstances`: expected, not read in a pod, with a `Bound` claim. -/
def probeTargets : List String :=
  (expectedInstances cfg cl obs).filter fun n =>
    n ∉ (execRecords obs pl).map (·.pod) && pvcState cfg cl obs n == "Bound"

/-- `waitAndCollectProbe`: the parsed logs of the probe pod, or the record of `unknown`s when it
printed nothing. -/
def probeRecord (n : String) : ControlData :=
  match obs.probeLogs n with
  | some logs => if logs = "" then ControlData.none n else parseControlData n "pvc_probe" logs
  | none => ControlData.none n

/-- The keys of the map `runPVCProbes` returns, the targets whose probe pod was created, in the
order the loop over it visits them. -/
def probeKeys : List String :=
  obs.probeOrder.perm ((probeTargets cfg cl obs pl).filter obs.probeCreated).dedup

/-- The probe results, each with its instance's crash reason. -/
def probeRecords : List ControlData :=
  (probeKeys cfg cl obs pl).map fun n => { probeRecord obs n with crashReason := crashReason obs pl n }

/-- The records of the expected instances with none so far. -/
def fallbackRecords : List ControlData :=
  ((expectedInstances cfg cl obs).filter fun n =>
      n ∉ (execRecords obs pl ++ probeRecords cfg cl obs pl).map (·.pod)).map fun n =>
    { ControlData.none n with crashReason := crashReason obs pl n }

/-- `data.controlData`. -/
def controlRecords : List ControlData :=
  execRecords obs pl ++ probeRecords cfg cl obs pl ++ fallbackRecords cfg cl obs pl

/-- `replicaInfo`: a row of the primary's `pg_stat_replication` query, in the query's columns. -/
structure ReplicaInfo where
  clientAddr : String
  state : String
  sentLSN : String
  writeLSN : String
  flushLSN : String
  replayLSN : String
  writeLag : String
  flushLag : String
  replayLag : String
  applicationName : String

/-- The row's fields in the order of the query's columns. -/
def ReplicaInfo.fields (r : ReplicaInfo) : List String :=
  [r.clientAddr, r.state, r.sentLSN, r.writeLSN, r.flushLSN, r.replayLSN, r.writeLag, r.flushLag,
    r.replayLag, r.applicationName]

/-- The row as `psql -t -A -F "|"` prints it. -/
def ReplicaInfo.text (r : ReplicaInfo) : String := "|".intercalate r.fields

/-- A row the reader cuts as it was printed: no field holds the separator or a newline. -/
def ReplicaInfo.Printable (r : ReplicaInfo) : Prop := ∀ f ∈ r.fields, '|' ∉ f.data ∧ '\n' ∉ f.data

instance : DecidablePred ReplicaInfo.Printable := fun r =>
  inferInstanceAs (Decidable (∀ f ∈ r.fields, '|' ∉ f.data ∧ '\n' ∉ f.data))

/-- What `collectReplicationStatus` takes from one line of its query's output: the tenth field of
a line of at least ten `|`-separated fields whose second is `streaming`. -/
def streamingReplica (line : String) : Option String :=
  if line = "" then none
  else
    let parts := line.splitOn "|"
    if parts.length ≥ 10 ∧ parts.getD 1 "" = "streaming" then some (parts.getD 9 "") else none

/-- The replicas `collectReplicationStatus` reads as streaming from the output of its query. -/
def streamingReplicas (out : String) : List String :=
  let lines := (trimSpace out).splitOn "\n"
  if lines = [] ∨ lines = [""] then [] else lines.filterMap streamingReplica

/-- `data.streamingReplicas`: asked of the current primary, when it runs. -/
def streaming : List String :=
  if cl.currentPrimary ∈ pl.running.map (·.name) then
    match obs.replicationQuery cl.currentPrimary with
    | some out => streamingReplicas out
    | none => []
  else []

/-- The data `triageCollect` returns once it has the pod list. -/
def collected : TriageData where
  runningPods := pl.running.map (·.name)
  missingInstances := pl.missing (expectedInstances cfg cl obs)
  crashloopPods := pl.crashlooping.map (·.name)
  controlData := controlRecords cfg cl obs pl
  streamingReplicas := streaming cl obs pl
  diskUsage := pl.diskUsage obs.df
  pvcStates := pvcState cfg cl obs

/-- `triageCollect`. -/
def triageCollect : Except String TriageData :=
  match obs.podList with
  | .error e => .error ("failed to list pods: " ++ e)
  | .ok pl => .ok (collected cfg cl obs pl)

/-- `Triage`: collect, then analyse.  The display is left out. -/
def triage : Except String TriageResult :=
  match triageCollect cfg cl obs with
  | .ok data => .ok (triageAnalyze cfg cl data)
  | .error e => .error ("triage collect failed: " ++ e)

/-! ## What each instance's record is -/

/-- What triage reads for `n` in the pod of that name: `pg_controldata`, when the pod runs, is not
crash-looping and the exec works. -/
def readOf (n : String) : Option ControlData :=
  match pl.named n with
  | some p =>
    if p.running && !p.crashloop then (obs.pgControldata n).map (parseControlData n "exec")
    else none
  | none => none

/-- The record of instance `n` from the first source that works: the read in its pod, else its
probe when its claim is `Bound` and the probe pod was created, else none; the last two with the
crash reason of the pod. -/
def controlDataOf (n : String) : ControlData :=
  match readOf obs pl n with
  | some cd => cd
  | none =>
    { (if pvcState cfg cl obs n = "Bound" ∧ obs.probeCreated n = true then probeRecord obs n
        else ControlData.none n) with crashReason := crashReason obs pl n }

/-! ## The records are keyed by instance -/

theorem foldl_controlDataLine (lines : List String) (cd : ControlData) :
    (lines.foldl controlDataLine cd).pod = cd.pod ∧
      (lines.foldl controlDataLine cd).source = cd.source ∧
      (lines.foldl controlDataLine cd).crashReason = cd.crashReason := by
  induction lines generalizing cd with
  | nil => exact ⟨rfl, rfl, rfl⟩
  | cons l ls ih =>
    rw [List.foldl_cons, (ih _).1, (ih _).2.1, (ih _).2.2]
    unfold controlDataLine
    dsimp only
    split_ifs <;> exact ⟨rfl, rfl, rfl⟩

@[simp] theorem parseControlData_pod (pod source raw : String) :
    (parseControlData pod source raw).pod = pod :=
  (foldl_controlDataLine _ _).1

@[simp] theorem parseControlData_crashReason (pod source raw : String) :
    (parseControlData pod source raw).crashReason = "" :=
  (foldl_controlDataLine _ _).2.2

@[simp] theorem probeRecord_pod (n : String) : (probeRecord obs n).pod = n := by
  unfold probeRecord
  split
  · split <;> simp [ControlData.none]
  · rfl

theorem readOf_eq_some {n : String} {cd : ControlData} :
    readOf obs pl n = some cd ↔ ∃ p ∈ pl.healthy, p.name = n ∧
      ∃ raw, obs.pgControldata n = some raw ∧ cd = parseControlData n "exec" raw := by
  unfold readOf
  constructor
  · intro h
    split at h
    next p hp =>
      obtain ⟨hi, hn⟩ := PodList.mem_of_named hp
      split at h
      next hr =>
        obtain ⟨raw, hraw, rfl⟩ := Option.map_eq_some'.1 h
        simp only [Bool.and_eq_true, Bool.not_eq_true'] at hr
        exact ⟨p, PodList.mem_healthy.2 ⟨hi, hr⟩, hn, raw, hraw, rfl⟩
      next => cases h
    next => cases h
  · rintro ⟨p, hp, rfl, raw, hraw, rfl⟩
    obtain ⟨hi, hr, hc⟩ := PodList.mem_healthy.1 hp
    simp [PodList.named_of_mem hi, hr, hc, hraw]

theorem readOf_pod {n : String} {cd : ControlData} (h : readOf obs pl n = some cd) :
    cd.pod = n := by
  obtain ⟨-, -, -, -, -, rfl⟩ := (readOf_eq_some obs pl).1 h
  exact parseControlData_pod ..

/-- The reads in the pods are the records `readOf` gives. -/
theorem mem_execRecords {cd : ControlData} :
    cd ∈ execRecords obs pl ↔ readOf obs pl cd.pod = some cd := by
  rw [readOf_eq_some]
  simp only [execRecords, List.mem_filterMap, Option.map_eq_some']
  constructor
  · rintro ⟨p, hp, raw, hraw, rfl⟩
    exact ⟨p, hp, (parseControlData_pod ..).symm, raw, by simpa using hraw, by simp⟩
  · rintro ⟨p, hp, hn, raw, hraw, hcd⟩
    rw [← hn] at hraw hcd
    exact ⟨p, hp, raw, hraw, by simpa using hcd.symm⟩

theorem mem_pods_execRecords {n : String} :
    n ∈ (execRecords obs pl).map (·.pod) ↔ (readOf obs pl n).isSome := by
  rw [List.mem_map, Option.isSome_iff_exists]
  constructor
  · rintro ⟨cd, hcd, rfl⟩
    exact ⟨cd, (mem_execRecords obs pl).1 hcd⟩
  · rintro ⟨cd, hcd⟩
    exact ⟨cd, (mem_execRecords obs pl).2 (by rwa [readOf_pod obs pl hcd]), readOf_pod obs pl hcd⟩

theorem mem_probeKeys {n : String} :
    n ∈ probeKeys cfg cl obs pl ↔ n ∈ expectedInstances cfg cl obs ∧ readOf obs pl n = none ∧
      pvcState cfg cl obs n = "Bound" ∧ obs.probeCreated n = true := by
  simp only [probeKeys, (obs.probeOrder.perm_spec _).mem_iff, List.mem_dedup, List.mem_filter,
    probeTargets, Bool.and_eq_true, decide_eq_true_eq, beq_iff_eq, mem_pods_execRecords,
    Option.not_isSome_iff_eq_none, and_assoc]

theorem probeRecords_pods :
    (probeRecords cfg cl obs pl).map (·.pod) = probeKeys cfg cl obs pl := by
  simp [probeRecords, Function.comp_def]

theorem mem_fallbackRecords {cd : ControlData} :
    cd ∈ fallbackRecords cfg cl obs pl ↔
      cd.pod ∈ expectedInstances cfg cl obs ∧
        cd.pod ∉ (execRecords obs pl ++ probeRecords cfg cl obs pl).map (·.pod) ∧
        cd = { ControlData.none cd.pod with crashReason := crashReason obs pl cd.pod } := by
  simp only [fallbackRecords, List.mem_map, List.mem_filter, decide_eq_true_eq]
  constructor
  · rintro ⟨n, hn, rfl⟩
    exact ⟨hn.1, hn.2, rfl⟩
  · rintro ⟨h₁, h₂, h₃⟩
    exact ⟨cd.pod, ⟨h₁, h₂⟩, h₃.symm⟩

theorem fallbackRecords_pods :
    (fallbackRecords cfg cl obs pl).map (·.pod) = (expectedInstances cfg cl obs).filter
      fun n => n ∉ (execRecords obs pl ++ probeRecords cfg cl obs pl).map (·.pod) := by
  simp [fallbackRecords, Function.comp_def, ControlData.none]

/-- Every expected instance has a record; the others are reads in healthy pods. -/
theorem mem_pods_controlRecords {n : String} :
    n ∈ (controlRecords cfg cl obs pl).map (·.pod) ↔
      n ∈ expectedInstances cfg cl obs ∨ (readOf obs pl n).isSome := by
  have hpe : n ∈ (probeRecords cfg cl obs pl).map (·.pod) → n ∈ expectedInstances cfg cl obs :=
    fun h => ((mem_probeKeys cfg cl obs pl).1 (probeRecords_pods cfg cl obs pl ▸ h)).1
  rw [controlRecords, List.map_append, fallbackRecords_pods, List.mem_append, List.mem_filter,
    decide_eq_true_eq, List.map_append, List.mem_append, mem_pods_execRecords]
  tauto

/-- Each record is the one the instance's first working source gives. -/
theorem controlRecords_spec : ∀ r ∈ controlRecords cfg cl obs pl, r = controlDataOf cfg cl obs pl r.pod := by
  intro r hr
  simp only [controlRecords, List.mem_append] at hr
  rcases hr with (hr | hr) | hr
  · simp [controlDataOf, (mem_execRecords obs pl).1 hr]
  · obtain ⟨n, hn, rfl⟩ := List.mem_map.1 hr
    obtain ⟨-, hr, hb, hc⟩ := (mem_probeKeys cfg cl obs pl).1 hn
    simp [controlDataOf, hr, hb, hc]
  · obtain ⟨he, hn, hg⟩ := (mem_fallbackRecords cfg cl obs pl).1 hr
    rw [List.map_append, List.mem_append, mem_pods_execRecords, not_or,
      Option.not_isSome_iff_eq_none, probeRecords_pods, mem_probeKeys] at hn
    have hp : ¬(pvcState cfg cl obs r.pod = "Bound" ∧ obs.probeCreated r.pod = true) :=
      fun h => hn.2 ⟨he, hn.1, h⟩
    rw [controlDataOf, hn.1]
    simp only [if_neg hp]
    exact hg

/-- A healthy pod has no crash reason: only crash-looping pods get one. -/
theorem crashReason_of_readOf {n : String} {cd : ControlData} (h : readOf obs pl n = some cd) :
    crashReason obs pl n = "" := by
  obtain ⟨p, hp, rfl, -⟩ := (readOf_eq_some obs pl).1 h
  obtain ⟨hi, -, hc⟩ := PodList.mem_healthy.1 hp
  have hn : p.name ∉ pl.crashlooping.map (·.name) :=
    mt (PodList.name_mem_crashlooping hi).1 (by simp [hc])
  simp [crashReason, PodList.crashReason, hn]

theorem crashReason_controlDataOf (n : String) :
    (controlDataOf cfg cl obs pl n).crashReason = crashReason obs pl n := by
  unfold controlDataOf
  cases h : readOf obs pl n with
  | none => rfl
  | some cd =>
    have hc := crashReason_of_readOf obs pl h
    obtain ⟨_, _, _, raw, _, rfl⟩ := (readOf_eq_some obs pl).1 h
    rw [parseControlData_crashReason, hc]

theorem triageCollect_eq_ok {data : TriageData} :
    triageCollect cfg cl obs = .ok data ↔ ∃ pl, obs.podList = .ok pl ∧ data = collected cfg cl obs pl := by
  unfold triageCollect
  split <;> simp [*, eq_comm]

/-! ## A cluster -/

def demoConfig : Config := { clusterName := "pg", ns := "pg" }

/-- Three instances, `pg-1` the primary, whose status lists no instance names. -/
def threeInstances : Cluster := ⟨"pg-1", 3, 2, "Cluster in healthy state"⟩

/-- `pg-1` and `pg-2` run and are ready; `pg-3` has no pod. -/
def demoPods : PodList :=
  ⟨[⟨"pg-1", true, some true, "n1"⟩, ⟨"pg-2", true, some true, "n2"⟩], by decide⟩

/-- `pg-2` streams from the primary. -/
def demoReplicas : List ReplicaInfo :=
  [⟨"10.0.0.2", "streaming", "0/3000060", "0/3000060", "0/3000060", "0/3000060", "", "", "",
    "pg-2"⟩]

/-- Every claim is `Bound`, `pg_controldata` prints the sample in every pod, the probe pods
print nothing, and the primary's query prints `demoReplicas`. -/
def demoObserved : Observed where
  instanceNames := []
  podList := .ok demoPods
  pvcPhase _ := some "Bound"
  logs _ := none
  pgControldata _ := some ("\n".intercalate (pgControldataSample.map KeyLine.text))
  probeCreated _ := true
  probeLogs _ := some ""
  replicationQuery _ := some ("\n".intercalate (demoReplicas.map ReplicaInfo.text) ++ "\n")
  df _ := none
  probeOrder := .insertion

theorem triageCollect_demo :
    triageCollect demoConfig threeInstances demoObserved =
      .ok (collected demoConfig threeInstances demoObserved demoPods) :=
  (triageCollect_eq_ok _ _ _).2 ⟨demoPods, rfl, rfl⟩

/-- **The control data records.**  For every observation and every order of the probe loop,
when triage gets its data, the instances with a record are the expected instances and the
healthy pods `pg_controldata` was read in; each record is the one its instance's first working
source gives, and carries its pod's crash reason. -/
theorem triageCollect_controlData {data : TriageData} (h : triageCollect cfg cl obs = .ok data) :
    ∃ pl, obs.podList = .ok pl ∧
      (∀ n, n ∈ data.controlData.map (·.pod) ↔
        n ∈ expectedInstances cfg cl obs ∨ (readOf obs pl n).isSome) ∧
      ∀ r ∈ data.controlData,
        r = controlDataOf cfg cl obs pl r.pod ∧ r.crashReason = crashReason obs pl r.pod := by
  obtain ⟨pl, hpl, rfl⟩ := (triageCollect_eq_ok cfg cl obs).1 h
  refine ⟨pl, hpl, fun _ => mem_pods_controlRecords cfg cl obs pl, fun r hr => ?_⟩
  have hr := controlRecords_spec cfg cl obs pl r hr
  exact ⟨hr, (congrArg ControlData.crashReason hr).trans (crashReason_controlDataOf cfg cl obs pl _)⟩

theorem triageCollect_controlData_threeInstances :
    ∃ data, triageCollect demoConfig threeInstances demoObserved = .ok data ∧
      ∃ pl, demoObserved.podList = .ok pl ∧
        (∀ n, n ∈ data.controlData.map (·.pod) ↔
          n ∈ expectedInstances demoConfig threeInstances demoObserved ∨
            (readOf demoObserved pl n).isSome) ∧
        ∀ r ∈ data.controlData,
          r = controlDataOf demoConfig threeInstances demoObserved pl r.pod ∧
            r.crashReason = crashReason demoObserved pl r.pod :=
  ⟨_, triageCollect_demo, triageCollect_controlData _ _ _ triageCollect_demo⟩

/-- The first record of a pod, in a list whose records are each their pod's `f`. -/
theorem find?_pod_of_spec {L : List ControlData} {f : String → ControlData}
    (hf : ∀ r ∈ L, r = f r.pod) (p : String) :
    L.find? (·.pod == p) = if p ∈ L.map (·.pod) then some (f p) else none := by
  induction L with
  | nil => simp
  | cons r L ih =>
    rw [List.find?_cons, ih fun r' h => hf r' (List.mem_cons_of_mem r h)]
    by_cases hp : r.pod = p
    · subst hp
      simp [← hf r (List.mem_cons_self r L)]
    · rw [show (r.pod == p) = false by simp [hp]]
      simp [hp, Ne.symm hp]

/-- **The primary's record.**  The record and timeline the split-brain check starts from are the
current primary's own record, read as every instance's is, or the `unknown` record when the
primary is neither expected nor a healthy pod that was read. -/
theorem triageCollect_primary {data : TriageData} (h : triageCollect cfg cl obs = .ok data) :
    ∃ pl, obs.podList = .ok pl ∧ data.primary cl.currentPrimary =
      if cl.currentPrimary ∈ expectedInstances cfg cl obs ∨
          (readOf obs pl cl.currentPrimary).isSome then
        (controlDataOf cfg cl obs pl cl.currentPrimary,
          (controlDataOf cfg cl obs pl cl.currentPrimary).timeline)
      else (ControlData.unknown, "unknown") := by
  obtain ⟨pl, hpl, rfl⟩ := (triageCollect_eq_ok cfg cl obs).1 h
  refine ⟨pl, hpl, ?_⟩
  unfold TriageData.primary
  simp only [collected]
  rw [find?_pod_of_spec (controlRecords_spec cfg cl obs pl)]
  by_cases hm : cl.currentPrimary ∈ (controlRecords cfg cl obs pl).map (·.pod)
  · rw [if_pos hm, if_pos ((mem_pods_controlRecords cfg cl obs pl).1 hm)]
    dsimp only
    rw [(controlDataOf cfg cl obs pl cl.currentPrimary).timeline_trimmed]
  · rw [if_neg hm, if_neg (mt (mem_pods_controlRecords cfg cl obs pl).2 hm)]

theorem triageCollect_primary_threeInstances :
    ∃ data, triageCollect demoConfig threeInstances demoObserved = .ok data ∧
      ∃ pl, demoObserved.podList = .ok pl ∧ data.primary threeInstances.currentPrimary =
        if threeInstances.currentPrimary ∈ expectedInstances demoConfig threeInstances demoObserved ∨
            (readOf demoObserved pl threeInstances.currentPrimary).isSome then
          (controlDataOf demoConfig threeInstances demoObserved pl threeInstances.currentPrimary,
            (controlDataOf demoConfig threeInstances demoObserved pl
              threeInstances.currentPrimary).timeline)
        else (ControlData.unknown, "unknown") :=
  ⟨_, triageCollect_demo, triageCollect_primary _ _ _ triageCollect_demo⟩

/-! ## One record per instance -/

theorem execRecords_pods :
    (execRecords obs pl).map (·.pod) =
      (pl.healthy.filter fun p => (obs.pgControldata p.name).isSome).map (·.name) := by
  rw [execRecords, map_filterMap_of_key (k := (·.name)) fun p cd h => ?_]
  · simp only [Option.isSome_map']
  · obtain ⟨raw, -, rfl⟩ := Option.map_eq_some'.1 h
    exact parseControlData_pod ..

theorem execRecords_nodup : ((execRecords obs pl).map (·.pod)).Nodup := by
  have hs : pl.healthy.Sublist pl.items :=
    pl.healthy_eq ▸ (List.filter_sublist _).trans pl.running_sublist
  rw [execRecords_pods]
  exact List.Nodup.sublist ((List.filter_sublist _).map _) (pl.names_nodup.sublist (hs.map _))

theorem probeKeys_nodup : (probeKeys cfg cl obs pl).Nodup :=
  (obs.probeOrder.perm_spec _).nodup_iff.2 (List.nodup_dedup _)

/-- The instance names of a cluster whose status lists none, `<cluster>-1` to
`<cluster>-<instances>`, are distinct. -/
theorem expectedInstances_nodup_of_nil (h : obs.instanceNames = []) :
    (expectedInstances cfg cl obs).Nodup := by
  rw [expectedInstances, if_pos h]
  exact ordinalNames_nodup _ ((List.nodup_range _).map Nat.succ_injective)

/-- With distinct expected names, no instance has two records. -/
theorem controlRecords_nodup (hn : (expectedInstances cfg cl obs).Nodup) :
    ((controlRecords cfg cl obs pl).map (·.pod)).Nodup := by
  rw [controlRecords, List.map_append, List.nodup_append, List.map_append, List.nodup_append,
    fallbackRecords_pods]
  refine ⟨⟨execRecords_nodup obs pl, probeRecords_pods cfg cl obs pl ▸ probeKeys_nodup cfg cl obs pl,
    ?_⟩, hn.sublist (List.filter_sublist _), ?_⟩
  · intro n he hp
    rw [probeRecords_pods] at hp
    rw [mem_pods_execRecords, ((mem_probeKeys cfg cl obs pl).1 hp).2.1] at he
    cases he
  · intro n h h'
    rw [← List.map_append] at h
    exact of_decide_eq_true (List.mem_filter.1 h').2 h

/-! ## The streaming replicas -/

theorem ReplicaInfo.splitOn_text {r : ReplicaInfo} (hr : r.Printable) :
    r.text.splitOn "|" = r.fields :=
  splitOn_intercalate_single '|' (fun f hf => (hr f hf).1) (by simp [ReplicaInfo.fields])

theorem ReplicaInfo.newline_not_mem_text {r : ReplicaInfo} (hr : r.Printable) :
    '\n' ∉ r.text.data := by
  simp only [ReplicaInfo.Printable, ReplicaInfo.fields, List.mem_cons, List.mem_singleton,
    forall_eq_or_imp, forall_eq, List.not_mem_nil, false_implies, implies_true, and_true] at hr
  simp [ReplicaInfo.text, ReplicaInfo.fields, intercalate_data, List.intercalate, hr]

theorem ReplicaInfo.text_ne_empty (r : ReplicaInfo) : r.text ≠ "" := fun h => by
  simpa [ReplicaInfo.text, ReplicaInfo.fields, intercalate_data, List.intercalate] using
    congrArg String.data h

/-- A printed row is read as its `application_name` when its state is `streaming`. -/
theorem streamingReplica_text {r : ReplicaInfo} (hr : r.Printable) :
    streamingReplica r.text = if r.state = "streaming" then some r.applicationName else none := by
  rw [streamingReplica, if_neg r.text_ne_empty]
  dsimp only
  rw [ReplicaInfo.splitOn_text hr]
  simp [ReplicaInfo.fields]

/-- **Reading `pg_stat_replication`.**  When the query's output, less the white space around it,
is rows whose fields hold no `|` and no newline, the replicas read as streaming are the
`application_name`s of the rows in state `streaming`, in the order printed. -/
theorem streamingReplicas_rows {out : String} {rows : List ReplicaInfo}
    (hr : ∀ r ∈ rows, r.Printable)
    (hout : trimSpace out = "\n".intercalate (rows.map ReplicaInfo.text)) :
    streamingReplicas out = (rows.filter (·.state == "streaming")).map (·.applicationName) := by
  unfold streamingReplicas
  dsimp only
  rw [hout]
  by_cases hne : rows = []
  · subst hne
    rw [show ("\n".intercalate (([] : List ReplicaInfo).map ReplicaInfo.text)).splitOn "\n" =
      [""] from splitOn_single "" '\n', if_pos (Or.inr rfl)]
    rfl
  · have hl : ¬(rows.map ReplicaInfo.text = [] ∨ rows.map ReplicaInfo.text = [""]) := by
      rintro (h | h)
      · exact hne (List.map_eq_nil_iff.1 h)
      · cases rows with
        | nil => exact hne rfl
        | cons r rs => exact r.text_ne_empty (List.cons.inj h).1
    rw [splitOn_intercalate_single '\n' (by simpa using fun r h => ReplicaInfo.newline_not_mem_text (hr r h))
      (by simpa using hne), if_neg hl, List.filterMap_map, ← List.filterMap_eq_map,
      List.filterMap_filter]
    refine List.filterMap_congr fun r h => ?_
    rw [Function.comp_apply, streamingReplica_text (hr r h)]
    by_cases hs : r.state = "streaming" <;> simp [hs]

/-- **The streaming replicas.**  When triage gets its data and the current primary's query
printed rows, the streaming replicas are the `application_name`s of the rows in state
`streaming` if the primary runs, and none otherwise. -/
theorem triageCollect_streaming {data : TriageData} (h : triageCollect cfg cl obs = .ok data)
    {out : String} {rows : List ReplicaInfo}
    (hq : obs.replicationQuery cl.currentPrimary = some out) (hr : ∀ r ∈ rows, r.Printable)
    (hout : trimSpace out = "\n".intercalate (rows.map ReplicaInfo.text)) :
    ∃ pl, obs.podList = .ok pl ∧ data.streamingReplicas =
      if cl.currentPrimary ∈ pl.running.map (·.name) then
        (rows.filter (·.state == "streaming")).map (·.applicationName)
      else [] := by
  obtain ⟨pl, hpl, rfl⟩ := (triageCollect_eq_ok cfg cl obs).1 h
  exact ⟨pl, hpl, by simp only [collected, streaming, hq, streamingReplicas_rows hr hout]⟩

theorem triageCollect_streaming_threeInstances :
    ∃ data, triageCollect demoConfig threeInstances demoObserved = .ok data ∧
      ∃ pl, demoObserved.podList = .ok pl ∧ data.streamingReplicas =
        if threeInstances.currentPrimary ∈ pl.running.map (·.name) then
          (demoReplicas.filter (·.state == "streaming")).map (·.applicationName)
        else [] :=
  ⟨_, triageCollect_demo,
    triageCollect_streaming _ _ _ triageCollect_demo rfl (by decide) (by decide)⟩

/-! ## `Triage`, end to end -/

theorem triage_eq_ok {res : TriageResult} :
    triage cfg cl obs = .ok res ↔
      ∃ data, triageCollect cfg cl obs = .ok data ∧ res = triageAnalyze cfg cl data := by
  unfold triage
  split <;> simp [*, eq_comm]

theorem buildAssessments_pods (data : TriageData) (comparison : DataComparison) (p : String) :
    (buildAssessments cfg data comparison p).map (·.pod) = data.controlData.map (·.pod) := by
  simp [buildAssessments, assess, Function.comp_def]

/-- **One assessment per instance.**  When `Triage` returns and the expected instance names are
distinct, as they are when the cluster's status lists none, its assessments are of distinct
pods: every expected instance, and every other healthy pod `pg_controldata` was read in. -/
theorem triage_instances {res : TriageResult} (h : triage cfg cl obs = .ok res)
    (hn : (expectedInstances cfg cl obs).Nodup) :
    ∃ pl, obs.podList = .ok pl ∧ (res.assessments.map (·.pod)).Nodup ∧
      ∀ n, n ∈ res.assessments.map (·.pod) ↔
        n ∈ expectedInstances cfg cl obs ∨ (readOf obs pl n).isSome := by
  obtain ⟨data, hd, rfl⟩ := (triage_eq_ok cfg cl obs).1 h
  obtain ⟨pl, hpl, rfl⟩ := (triageCollect_eq_ok cfg cl obs).1 hd
  refine ⟨pl, hpl, ?_, fun n => ?_⟩
  · exact (buildAssessments_pods cfg _ _ _).symm ▸ controlRecords_nodup cfg cl obs pl hn
  · exact (buildAssessments_pods cfg _ _ _).symm ▸ mem_pods_controlRecords cfg cl obs pl

theorem triage_instances_threeInstances :
    ∃ res, triage demoConfig threeInstances demoObserved = .ok res ∧
      ∃ pl, demoObserved.podList = .ok pl ∧ (res.assessments.map (·.pod)).Nodup ∧
        ∀ n, n ∈ res.assessments.map (·.pod) ↔
          n ∈ expectedInstances demoConfig threeInstances demoObserved ∨
            (readOf demoObserved pl n).isSome :=
  have h := (triage_eq_ok demoConfig threeInstances demoObserved).2 ⟨_, triageCollect_demo, rfl⟩
  ⟨_, h, triage_instances _ _ _ h (expectedInstances_nodup_of_nil _ _ _ rfl)⟩

end Cnpg
end Hasteward
