import Hasteward.Collect
import Hasteward.Galera.Triage
import Hasteward.Go.Time

/-!
# Galera triage: what the collection gathers

`triageCollect` in `engine/galera/triage.go` builds the `TriageData` the analysis reads.  For
every node it reads `grastate.dat`: in the pod when the pod runs (`exec`, or `exec_crashloop`
when it is crash-looping), else in a probe pod over the node's storage claim (`pvc_probe`), else
it records `unknown`s (`none`).  It queries the wsrep status of every running pod that is not
crash-looping, keeping the zero status when the query fails.  Before any of that it aborts if an
expected node has no storage claim.

The API server and the pods are an `Observed`: the pod list, which claims exist, and what each
command printed.  Three Go maps are iterated (`pvcStates`, the probe results, `wsrepMap`); each
has its own `MapOrder`.

* `grastateRecords_nodup` and `wsrepEntries_nodup`: the collected data has one grastate record
  and at most one wsrep entry per pod, the two invariants `TriageData` carries, so
  `triageCollect` can build one.
* `triageCollect_grastate`: for every observation and every iteration order, when triage gets
  its data, each expected node has exactly one grastate record, and every record is the one the
  node's first working source gives (`grastateOf`); the other records are reads in running pods.
* `triageCollect_wsrep`: the running, crash-looping and missing pods are as listed, and the wsrep
  entries are exactly the healthy running pods, each with its query's status (`wsrepOf`).
* `parseGrastate_grastateFile` and `parseWsrepStatus_rows`: the readers give back what Galera
  wrote to `grastate.dat` and what the status query printed.
-/

set_option autoImplicit false

namespace Hasteward
namespace Galera

open Go

/-! ## Reading `grastate.dat` and the wsrep status -/

/-- One line of `parseGrastate`'s loop. -/
def grastateLine (gs : Grastate) (line : String) : Grastate :=
  let line := trimSpace line
  if hasPrefix line "uuid:" then { gs with uuid := readValue line }
  else if hasPrefix line "seqno:" then { gs with seqno := readValue line }
  else if hasPrefix line "safe_to_bootstrap:" then { gs with safeToBootstrap := readValue line }
  else gs

/-- `parseGrastate`: the `uuid`, `seqno` and `safe_to_bootstrap` of a `grastate.dat`, the last
line of each kind winning; `unknown`, `-1` and `0` where there is none. -/
def parseGrastate (pod source raw : String) : Grastate :=
  (raw.splitOn "\n").foldl grastateLine ⟨pod, source, "unknown", "-1", "0"⟩

/-- The `switch key` of `parseWsrepStatus`'s loop.  The cases of `wsrep_cluster_size` and
`wsrep_flow_control_paused` set fields only the display reads. -/
def wsrepField (ws : WsrepStatus) (key val : String) : WsrepStatus :=
  if key = "wsrep_local_state" then { ws with localState := parseIntValue 10 val }
  else if key = "wsrep_local_state_comment" then { ws with localStateComment := val }
  else if key = "wsrep_cluster_status" then { ws with clusterStatus := val }
  else if key = "wsrep_connected" then { ws with connected := val }
  else if key = "wsrep_ready" then { ws with ready := val }
  else if key = "wsrep_cluster_state_uuid" then { ws with clusterStateUUID := val }
  else if key = "wsrep_last_committed" then { ws with lastCommitted := parseIntValue 10 val }
  else ws

/-- One line of `parseWsrepStatus`'s loop: a `name<TAB>value` row of the status query, its name
in any case. -/
def wsrepLine (ws : WsrepStatus) (line : String) : WsrepStatus :=
  match splitN2 (trimSpace line) '\t' with
  | [name, val] => wsrepField ws (toLower name) val
  | _ => ws

/-- `parseWsrepStatus`: every row read over the status that starts from `LastCommitted: -1`. -/
def parseWsrepStatus (raw : String) : WsrepStatus :=
  (raw.splitOn "\n").foldl wsrepLine { lastCommitted := -1 }

/-- The `grastate.dat` the heal writes, `printf '%s\n'` of a header, the version and the state:
the layout Galera saves its state in. -/
def grastateFile (uuid seqno safeToBootstrap : String) : String :=
  "\n".intercalate ["# GALERA saved state", "version: 2.1", "uuid:    " ++ uuid,
    "seqno:   " ++ seqno, "safe_to_bootstrap: " ++ safeToBootstrap, ""]

/-- The file the heal writes over the node's state in its third step. -/
def wipedGrastate : String := grastateFile "00000000-0000-0000-0000-000000000000" "-1" "0"

/-- A line with none of the three keys leaves the record alone. -/
theorem grastateLine_of_not_key (gs : Grastate) (line : String)
    (h : hasPrefix (trimSpace line) "uuid:" = false ∧ hasPrefix (trimSpace line) "seqno:" = false ∧
      hasPrefix (trimSpace line) "safe_to_bootstrap:" = false) :
    grastateLine gs line = gs := by
  simp [grastateLine, h.1, h.2.1, h.2.2]

/-- A `key: value` line sets the field its key names to its trimmed value, whatever the padding. -/
theorem grastateLine_keyLine (gs : Grastate) {k pad : List Char} (hk : ':' ∉ k)
    (hk₀ : ∀ c ∈ k.head?, isSpace c = false) (hp : ∀ c ∈ pad, isSpace c = true) (v : String) :
    grastateLine gs ⟨k ++ ':' :: (pad ++ v.data)⟩ =
      if k = "uuid".data then { gs with uuid := trimSpace v }
      else if k = "seqno".data then { gs with seqno := trimSpace v }
      else if k = "safe_to_bootstrap".data then { gs with safeToBootstrap := trimSpace v }
      else gs := by
  have key : ∀ k', ':' ∉ k' →
      hasPrefix (trimSpace ⟨k ++ ':' :: (pad ++ v.data)⟩) ⟨k' ++ [':']⟩ = decide (k = k') :=
    fun k' hk' => hasPrefix_keyLine hk hk₀ hk' _
  unfold grastateLine
  dsimp only
  rw [show ("uuid:" : String) = ⟨"uuid".data ++ [':']⟩ from rfl,
    show ("seqno:" : String) = ⟨"seqno".data ++ [':']⟩ from rfl,
    show ("safe_to_bootstrap:" : String) = ⟨"safe_to_bootstrap".data ++ [':']⟩ from rfl,
    key _ (by decide), key _ (by decide), key _ (by decide), readValue_keyLine hk hk₀ hp]
  simp only [decide_eq_true_eq]

/-- **`grastate.dat` round trip.**  `parseGrastate` reads back the state of a `grastate.dat` in
the layout Galera and the heal write it in, whatever the UUID and `safe_to_bootstrap` are as long
as each is one trimmed line, and `parseInt64` reads back its seqno, every `int64`. -/
theorem parseGrastate_grastateFile (pod source : String) {uuid safeToBootstrap : String}
    (hu : '\n' ∉ uuid.data ∧ Trimmed uuid) (hb : '\n' ∉ safeToBootstrap.data ∧ Trimmed safeToBootstrap)
    {seqno : Int} (h₁ : -2 ^ 63 ≤ seqno) (h₂ : seqno < 2 ^ 63) :
    parseGrastate pod source (grastateFile uuid (toString seqno) safeToBootstrap) =
        ⟨pod, source, uuid, toString seqno, safeToBootstrap⟩ ∧
      parseInt64 (toString seqno) (-1) = seqno := by
  have hs : Trimmed (toString seqno) := trimmed_of_noSpace (isSpace_toString_int seqno)
  have hsn : '\n' ∉ (toString seqno).data := fun h =>
    absurd (isSpace_toString_int seqno _ h) (by decide)
  have hlines : (grastateFile uuid (toString seqno) safeToBootstrap).splitOn "\n" =
      ["# GALERA saved state", "version: 2.1", "uuid:    " ++ uuid, "seqno:   " ++ toString seqno,
        "safe_to_bootstrap: " ++ safeToBootstrap, ""] := by
    refine splitOn_intercalate_single '\n' ?_ (by simp)
    simp only [List.mem_cons, List.mem_singleton, forall_eq_or_imp, String.data_append,
      List.mem_append, not_or, List.not_mem_nil, false_implies, implies_true, and_true]
    exact ⟨by decide, by decide, ⟨by decide, hu.1⟩, ⟨by decide, hsn⟩, ⟨by decide, hb.1⟩, by decide⟩
  refine ⟨?_, by rw [parseInt64, hs, parseInt_toString h₁ h₂]; rfl⟩
  rw [parseGrastate, hlines]
  simp only [List.foldl_cons, List.foldl_nil]
  rw [grastateLine_of_not_key _ "# GALERA saved state" (by decide),
    grastateLine_of_not_key _ "version: 2.1" (by decide),
    show "uuid:    " ++ uuid = ⟨"uuid".data ++ ':' :: ("    ".data ++ uuid.data)⟩ from rfl,
    grastateLine_keyLine _ (by decide : ':' ∉ "uuid".data) (by decide)
      (by decide : ∀ c ∈ "    ".data, isSpace c = true), if_pos rfl,
    show "seqno:   " ++ toString seqno =
      ⟨"seqno".data ++ ':' :: ("   ".data ++ (toString seqno).data)⟩ from rfl,
    grastateLine_keyLine _ (by decide : ':' ∉ "seqno".data) (by decide)
      (by decide : ∀ c ∈ "   ".data, isSpace c = true),
    if_neg (by decide), if_pos rfl,
    show "safe_to_bootstrap: " ++ safeToBootstrap =
      ⟨"safe_to_bootstrap".data ++ ':' :: (" ".data ++ safeToBootstrap.data)⟩ from rfl,
    grastateLine_keyLine _ (by decide : ':' ∉ "safe_to_bootstrap".data) (by decide)
      (by decide : ∀ c ∈ " ".data, isSpace c = true),
    if_neg (by decide), if_neg (by decide), if_pos rfl,
    grastateLine_of_not_key _ "" (by decide), hu.2, hs, hb.2]

/-- What triage reads from a node the heal has wiped: the all-zero UUID, which `uuidSet` leaves
out, and seqno `-1`. -/
theorem parseGrastate_wipedGrastate :
    ('\n' ∉ "00000000-0000-0000-0000-000000000000".data ∧
        Trimmed "00000000-0000-0000-0000-000000000000") ∧ ('\n' ∉ "0".data ∧ Trimmed "0") ∧
      -2 ^ 63 ≤ (-1 : Int) ∧ (-1 : Int) < 2 ^ 63 ∧
      parseGrastate "db-1" "pvc_probe" wipedGrastate =
        ⟨"db-1", "pvc_probe", "00000000-0000-0000-0000-000000000000", "-1", "0"⟩ ∧
      parseInt64 "-1" (-1) = -1 := by
  have h := parseGrastate_grastateFile "db-1" "pvc_probe"
    (⟨by decide, by decide⟩ : '\n' ∉ "00000000-0000-0000-0000-000000000000".data ∧
      Trimmed "00000000-0000-0000-0000-000000000000")
    (⟨by decide, by decide⟩ : '\n' ∉ "0".data ∧ Trimmed "0") (by decide : -2 ^ 63 ≤ (-1 : Int))
    (by decide)
  rw [show toString (-1 : Int) = "-1" by decide] at h
  exact ⟨⟨by decide, by decide⟩, ⟨by decide, by decide⟩, by decide, by decide, h⟩

/-- A row of the wsrep status query as `mysql -N -B` prints it: `name<TAB>value`. -/
structure StatusRow where
  name : String
  value : String

/-- The row as printed. -/
def StatusRow.text (r : StatusRow) : String := r.name ++ "\t" ++ r.value

/-- A row the reader cuts as it was printed: its name is not empty, holds no tab and is not white
at either end, its value is not white at the end, and neither holds a newline. -/
def StatusRow.Readable (r : StatusRow) : Prop :=
  r.name ≠ "" ∧ '\t' ∉ r.name.data ∧ (∀ c ∈ r.name.data.head?, isSpace c = false) ∧
    (∀ c ∈ r.name.data.getLast?, isSpace c = false) ∧
    r.value.data.rdropWhile isSpace = r.value.data ∧ '\n' ∉ r.name.data ∧ '\n' ∉ r.value.data

instance : DecidablePred StatusRow.Readable := fun r =>
  inferInstanceAs (Decidable (r.name ≠ "" ∧ '\t' ∉ r.name.data ∧
    (∀ c ∈ r.name.data.head?, isSpace c = false) ∧ (∀ c ∈ r.name.data.getLast?, isSpace c = false) ∧
    r.value.data.rdropWhile isSpace = r.value.data ∧ '\n' ∉ r.name.data ∧ '\n' ∉ r.value.data))

/-- A readable row goes through the `switch` with its name in lower case, unless its value is
empty: then `strings.TrimSpace` has taken the tab away, and the row is skipped. -/
theorem wsrepLine_text (ws : WsrepStatus) {r : StatusRow} (hr : r.Readable) :
    wsrepLine ws r.text = if r.value = "" then ws else wsrepField ws (toLower r.name) r.value := by
  obtain ⟨hn, ht, hn₀, hn₁, hv, -, -⟩ := hr
  have htext : r.text = ⟨r.name.data ++ '\t' :: r.value.data⟩ := by
    simp [StatusRow.text, String.ext_iff]
  rw [wsrepLine, htext, trimSpace_tabRow (mt String.ext hn) hn₀ hn₁ hv]
  by_cases he : r.value = ""
  · rw [if_pos (congrArg String.data he), if_pos he]
    simp [splitN2, ht]
  · rw [if_neg (mt String.ext he), if_neg he, splitN2_append ht]

theorem foldl_wsrepLine_rows (ws : WsrepStatus) {rows : List StatusRow}
    (hr : ∀ r ∈ rows, r.Readable) :
    (rows.map StatusRow.text).foldl wsrepLine ws =
      (rows.filter (·.value ≠ "")).foldl (fun ws r => wsrepField ws (toLower r.name) r.value) ws := by
  induction rows generalizing ws with
  | nil => rfl
  | cons r rows ih =>
    rw [List.map_cons, List.foldl_cons, ih _ fun r' h => hr r' (List.mem_cons_of_mem r h),
      wsrepLine_text ws (hr r (List.mem_cons_self r rows))]
    by_cases he : r.value = "" <;> simp [List.filter_cons, he]

/-- **The wsrep status read back.**  On what the status query prints, readable rows
`name<TAB>value` each followed by a newline, `parseWsrepStatus` is the query's `switch` applied to
each row in turn from the status with `LastCommitted: -1`, the rows with an empty value skipped. -/
theorem parseWsrepStatus_rows {rows : List StatusRow} (hr : ∀ r ∈ rows, r.Readable) :
    parseWsrepStatus ("\n".intercalate (rows.map StatusRow.text ++ [""])) =
      (rows.filter (·.value ≠ "")).foldl (fun ws r => wsrepField ws (toLower r.name) r.value)
        { lastCommitted := -1 } := by
  have hnl : ∀ s ∈ rows.map StatusRow.text ++ [""], '\n' ∉ s.data := by
    simp only [List.mem_append, List.mem_map, List.mem_singleton]
    rintro _ (⟨r, hm, rfl⟩ | rfl)
    · obtain ⟨-, -, -, -, -, h₁, h₂⟩ := hr r hm
      simp [StatusRow.text, h₁, h₂]
    · exact List.not_mem_nil _
  rw [parseWsrepStatus, splitOn_intercalate_single '\n' hnl (by simp), List.foldl_append,
    foldl_wsrepLine_rows _ hr]
  rfl

/-- What `SHOW STATUS LIKE 'wsrep_%'` prints of a synced node. -/
def syncedRows : List StatusRow :=
  [⟨"wsrep_local_state", "4"⟩, ⟨"wsrep_local_state_comment", "Synced"⟩,
    ⟨"wsrep_cluster_status", "Primary"⟩, ⟨"wsrep_connected", "ON"⟩, ⟨"wsrep_ready", "ON"⟩,
    ⟨"wsrep_last_committed", "1234"⟩]

theorem parseWsrepStatus_syncedRows :
    (∀ r ∈ syncedRows, r.Readable) ∧
      parseWsrepStatus ("\n".intercalate (syncedRows.map StatusRow.text ++ [""])) =
        (syncedRows.filter (·.value ≠ "")).foldl
          (fun ws r => wsrepField ws (toLower r.name) r.value) { lastCommitted := -1 } := by
  have hr : ∀ r ∈ syncedRows, r.Readable := by decide
  exact ⟨hr, parseWsrepStatus_rows hr⟩

/-! ## What the collection observes -/

/-- What `triageCollect` learns of a Galera cluster from the API server and the pods: the pod
list, which volume claims exist, what each command prints (`none` when the exec or the log read
fails), and the orders in which it visits its three maps. -/
structure Observed where
  /-- `Pods(ns).List` with the label `app.kubernetes.io/instance=<cluster>`. -/
  podList : Except String PodList
  /-- `PersistentVolumeClaims(ns).Get(name)` succeeds. -/
  claimExists : String → Bool
  /-- `cat /var/lib/mysql/grastate.dat` in the pod. -/
  catGrastate : String → Option String
  /-- `Pods(ns).Create` of the node's probe pod succeeds. -/
  probeCreated : String → Bool
  /-- The logs of the node's probe pod, once it has finished or the wait is over. -/
  probeLogs : String → Option String
  /-- The wsrep status query in the pod. -/
  wsrepQuery : String → Option String
  /-- The logs of the pod's `mariadb` container. -/
  logs : String → Option String
  /-- `df -h /var/lib/mysql` in the pod. -/
  df : String → Option String
  pvcOrder : MapOrder
  probeOrder : MapOrder
  wsrepOrder : MapOrder

variable (cfg : Config) (mdb : MariaDB) (obs : Observed) (pl : PodList)

/-- `data.expectedNodes`: `<cluster>-0` to `<cluster>-(replicas - 1)`. -/
def expectedNodes : List String := ordinalNames cfg.clusterName (List.range mdb.replicas.toNat)

/-- The nodes whose storage claim is missing, in the order the loop over `pvcStates` visits
them. -/
def missingStorage : List String :=
  (obs.pvcOrder.perm (expectedNodes cfg mdb)).filter fun n => !obs.claimExists ("storage-" ++ n)

/-- The record of a node nothing could be read for. -/
def Grastate.none (n : String) : Grastate := ⟨n, "none", "unknown", "-1", "0"⟩

/-- The reads of `grastate.dat` in the running pods: the healthy ones (`exec`), then the
crash-looping ones (`exec_crashloop`). -/
def execRecords : List Grastate :=
  pl.healthy.filterMap (fun p => (obs.catGrastate p.name).map (parseGrastate p.name "exec")) ++
    pl.crashlooping.filterMap fun p =>
      (obs.catGrastate p.name).map (parseGrastate p.name "exec_crashloop")

/-- The nodes `triageCollect` probes: expected, not read in a pod, with a storage claim. -/
def probeTargets : List String :=
  (expectedNodes cfg mdb).filter fun n =>
    n ∉ (execRecords obs pl).map (·.pod) && obs.claimExists ("storage-" ++ n)

/-- What `runPVCProbes` keeps for a target: the parsed logs of its probe pod, when the pod was
created and printed something. -/
def probeResult (n : String) : Option Grastate :=
  if obs.probeCreated n then
    match obs.probeLogs n with
    | some logs => if logs = "" then none else some (parseGrastate n "pvc_probe" logs)
    | none => none
  else none

/-- The map `runPVCProbes` returns, in the order the loop over it visits it. -/
def probeRecords : List Grastate :=
  (obs.probeOrder.perm ((probeTargets cfg mdb obs pl).filter fun n => (probeResult obs n).isSome)).filterMap
    (probeResult obs)

/-- The records of the expected nodes nothing was read for. -/
def fallbackRecords : List Grastate :=
  ((expectedNodes cfg mdb).filter fun n =>
      n ∉ (execRecords obs pl ++ probeRecords cfg mdb obs pl).map (·.pod)).map Grastate.none

/-- `data.grastateData`. -/
def grastateRecords : List Grastate :=
  execRecords obs pl ++ probeRecords cfg mdb obs pl ++ fallbackRecords cfg mdb obs pl

/-- The wsrep status of pod `n`: its query's parsed output, or `&wsrepStatus{}` when the query
failed. -/
def wsrepOf (n : String) : WsrepStatus :=
  match obs.wsrepQuery n with
  | some out => parseWsrepStatus out
  | none => {}

/-- `data.wsrepMap`, in the order the loops over it visit it. -/
def wsrepEntries : List (String × WsrepStatus) :=
  (obs.wsrepOrder.perm (pl.healthy.map (·.name))).map fun n => (n, wsrepOf obs n)

/-- `data.crashReasons`: `disk_full` for a crash-looping pod whose `mariadb` logs say the disk is
full. -/
def crashReason : String → String :=
  pl.crashReason obs.logs ["No space left on device", "Disk is full", "disk full"]

/-- `data.diskUsage`. -/
def diskUsage : String → Int := pl.diskUsage obs.df

/-- The record triage reads for `n` in the pod of that name: when the pod runs and `cat` works,
its `grastate.dat`, from the source `exec`, or `exec_crashloop` when the pod is crash-looping. -/
def readOf (n : String) : Option Grastate :=
  match pl.named n with
  | some p =>
    if p.running then
      (obs.catGrastate n).map (parseGrastate n (if p.crashloop then "exec_crashloop" else "exec"))
    else none
  | none => none

/-- The record of node `n` from the first source that works: the read in its pod, its probe,
or none. -/
def grastateOf (n : String) : Grastate :=
  ((readOf obs pl n).or (probeResult obs n)).getD (Grastate.none n)

/-! ## The records are keyed by pod -/

theorem foldl_grastateLine (lines : List String) (gs : Grastate) :
    (lines.foldl grastateLine gs).pod = gs.pod ∧
      (lines.foldl grastateLine gs).source = gs.source := by
  induction lines generalizing gs with
  | nil => exact ⟨rfl, rfl⟩
  | cons l ls ih =>
    rw [List.foldl_cons, (ih _).1, (ih _).2]
    unfold grastateLine
    dsimp only
    split_ifs <;> exact ⟨rfl, rfl⟩

@[simp] theorem parseGrastate_pod (pod source raw : String) :
    (parseGrastate pod source raw).pod = pod :=
  (foldl_grastateLine _ _).1

@[simp] theorem parseGrastate_source (pod source raw : String) :
    (parseGrastate pod source raw).source = source :=
  (foldl_grastateLine _ _).2

theorem probeResult_pod {n : String} {g : Grastate} (h : probeResult obs n = some g) :
    g.pod = n := by
  unfold probeResult at h
  split_ifs at h
  split at h
  · split_ifs at h
    cases h
    exact parseGrastate_pod ..
  · cases h

theorem readOf_eq_some {n : String} {g : Grastate} :
    readOf obs pl n = some g ↔ ∃ p ∈ pl.items, p.name = n ∧ p.running = true ∧
      ∃ raw, obs.catGrastate n = some raw ∧
        g = parseGrastate n (if p.crashloop then "exec_crashloop" else "exec") raw := by
  unfold readOf
  constructor
  · intro h
    split at h
    next p hp =>
      obtain ⟨hi, hn⟩ := PodList.mem_of_named hp
      split at h
      next hr =>
        obtain ⟨raw, hraw, rfl⟩ := Option.map_eq_some'.1 h
        exact ⟨p, hi, hn, hr, raw, hraw, rfl⟩
      next => cases h
    next => cases h
  · rintro ⟨p, hi, rfl, hr, raw, hraw, rfl⟩
    simp [PodList.named_of_mem hi, hr, hraw]

theorem readOf_pod {n : String} {g : Grastate} (h : readOf obs pl n = some g) : g.pod = n := by
  obtain ⟨-, -, -, -, -, -, rfl⟩ := (readOf_eq_some obs pl).1 h
  exact parseGrastate_pod ..

/-- The reads in the pods are the records `readOf` gives. -/
theorem mem_execRecords {g : Grastate} : g ∈ execRecords obs pl ↔ readOf obs pl g.pod = some g := by
  rw [readOf_eq_some]
  simp only [execRecords, List.mem_append, List.mem_filterMap, Option.map_eq_some']
  constructor
  · rintro (⟨p, hp, raw, hraw, rfl⟩ | ⟨p, hp, raw, hraw, rfl⟩)
    · obtain ⟨hi, hr, hc⟩ := PodList.mem_healthy.1 hp
      exact ⟨p, hi, (parseGrastate_pod ..).symm, hr, raw, by simpa using hraw, by simp [hc]⟩
    · obtain ⟨hi, hc⟩ := PodList.mem_crashlooping.1 hp
      exact ⟨p, hi, (parseGrastate_pod ..).symm, Pod.running_of_crashloop hc, raw,
        by simpa using hraw, by simp [hc]⟩
  · rintro ⟨p, hi, hn, hr, raw, hraw, hg⟩
    rw [← hn] at hraw hg
    cases hc : p.crashloop
    · exact .inl ⟨p, PodList.mem_healthy.2 ⟨hi, hr, hc⟩, raw, hraw, by simpa [hc] using hg.symm⟩
    · exact .inr ⟨p, PodList.mem_crashlooping.2 ⟨hi, hc⟩, raw, hraw, by simpa [hc] using hg.symm⟩

theorem mem_pods_execRecords {n : String} :
    n ∈ (execRecords obs pl).map (·.pod) ↔ (readOf obs pl n).isSome := by
  rw [List.mem_map, Option.isSome_iff_exists]
  constructor
  · rintro ⟨g, hg, rfl⟩
    exact ⟨g, (mem_execRecords obs pl).1 hg⟩
  · rintro ⟨g, hg⟩
    exact ⟨g, (mem_execRecords obs pl).2 (by rwa [readOf_pod obs pl hg]), readOf_pod obs pl hg⟩

/-- When every `f a` it keeps has the key `k a`, the keys of `l.filterMap f` are those of the
elements it keeps. -/
theorem execRecords_pods :
    (execRecords obs pl).map (·.pod) =
      ((pl.healthy ++ pl.crashlooping).filter fun p => (obs.catGrastate p.name).isSome).map
        (·.name) := by
  simp only [execRecords, List.map_append, List.filter_append]
  rw [map_filterMap_of_key (k := (·.name)) (fun p g h => ?_),
    map_filterMap_of_key (k := (·.name)) (fun p g h => ?_)]
  · simp
  all_goals
    obtain ⟨raw, -, rfl⟩ := Option.map_eq_some'.1 h
    exact parseGrastate_pod ..

theorem execRecords_nodup : ((execRecords obs pl).map (·.pod)).Nodup := by
  rw [execRecords_pods]
  refine List.Nodup.sublist ((List.filter_sublist _).map _) ?_
  exact ((pl.healthy_append_crashlooping_perm.map _).nodup_iff).2
    (pl.names_nodup.sublist (pl.running_sublist.map _))

theorem expectedNodes_nodup : (expectedNodes cfg mdb).Nodup :=
  ordinalNames_nodup _ (List.nodup_range _)

theorem mem_probeTargets {n : String} :
    n ∈ probeTargets cfg mdb obs pl ↔
      n ∈ expectedNodes cfg mdb ∧ readOf obs pl n = none ∧ obs.claimExists ("storage-" ++ n) = true := by
  simp only [probeTargets, List.mem_filter, Bool.and_eq_true, decide_eq_true_eq,
    mem_pods_execRecords, Option.not_isSome_iff_eq_none]

theorem probeRecords_pods :
    (probeRecords cfg mdb obs pl).map (·.pod) =
      obs.probeOrder.perm ((probeTargets cfg mdb obs pl).filter fun n => (probeResult obs n).isSome) := by
  rw [probeRecords, map_filterMap_of_key (f := probeResult obs) (k := id) (fun n g h => probeResult_pod obs h), List.map_id]
  refine List.filter_eq_self.2 fun n hn => ?_
  exact (List.mem_filter.1 ((obs.probeOrder.perm_spec _).mem_iff.1 hn)).2

theorem mem_pods_probeRecords {n : String} :
    n ∈ (probeRecords cfg mdb obs pl).map (·.pod) ↔
      n ∈ expectedNodes cfg mdb ∧ readOf obs pl n = none ∧
        obs.claimExists ("storage-" ++ n) = true ∧ (probeResult obs n).isSome := by
  rw [probeRecords_pods, (obs.probeOrder.perm_spec _).mem_iff, List.mem_filter, mem_probeTargets]
  simp only [and_assoc]

theorem probeRecords_nodup : ((probeRecords cfg mdb obs pl).map (·.pod)).Nodup := by
  rw [probeRecords_pods]
  exact (obs.probeOrder.perm_spec _).nodup_iff.2
    (((expectedNodes_nodup cfg mdb).sublist (List.filter_sublist _)).sublist (List.filter_sublist _))

theorem probeResult_of_mem_probeRecords {g : Grastate} (hg : g ∈ probeRecords cfg mdb obs pl) :
    probeResult obs g.pod = some g := by
  obtain ⟨n, -, hn⟩ := List.mem_filterMap.1 hg
  rwa [probeResult_pod obs hn]

theorem mem_fallbackRecords {g : Grastate} :
    g ∈ fallbackRecords cfg mdb obs pl ↔
      g.pod ∈ expectedNodes cfg mdb ∧ g.pod ∉ (execRecords obs pl ++ probeRecords cfg mdb obs pl).map (·.pod) ∧
        g = Grastate.none g.pod := by
  simp only [fallbackRecords, List.mem_map, List.mem_filter, decide_eq_true_eq]
  constructor
  · rintro ⟨n, hn, rfl⟩
    exact ⟨hn.1, hn.2, rfl⟩
  · rintro ⟨h₁, h₂, h₃⟩
    exact ⟨g.pod, ⟨h₁, h₂⟩, h₃.symm⟩

theorem fallbackRecords_pods :
    (fallbackRecords cfg mdb obs pl).map (·.pod) = (expectedNodes cfg mdb).filter fun n =>
      n ∉ (execRecords obs pl ++ probeRecords cfg mdb obs pl).map (·.pod) := by
  rw [fallbackRecords, List.map_map]
  exact List.map_id _

/-- One grastate record per pod: the invariant `TriageData` carries. -/
theorem grastateRecords_nodup : ((grastateRecords cfg mdb obs pl).map (·.pod)).Nodup := by
  rw [grastateRecords, List.map_append, List.nodup_append, List.map_append, List.nodup_append,
    fallbackRecords_pods]
  refine ⟨⟨execRecords_nodup obs pl, probeRecords_nodup cfg mdb obs pl, ?_⟩,
    (expectedNodes_nodup cfg mdb).sublist (List.filter_sublist _), ?_⟩
  · intro n he hp
    rw [mem_pods_execRecords] at he
    rw [(mem_pods_probeRecords cfg mdb obs pl).1 hp |>.2.1] at he
    cases he
  · intro n h h'
    rw [← List.map_append] at h
    exact of_decide_eq_true (List.mem_filter.1 h').2 h

/-- Every expected node has a record; the others are reads in running pods. -/
theorem mem_pods_grastateRecords {n : String} :
    n ∈ (grastateRecords cfg mdb obs pl).map (·.pod) ↔
      n ∈ expectedNodes cfg mdb ∨ (readOf obs pl n).isSome := by
  have hpe : n ∈ (probeRecords cfg mdb obs pl).map (·.pod) → n ∈ expectedNodes cfg mdb :=
    fun h => ((mem_pods_probeRecords cfg mdb obs pl).1 h).1
  rw [grastateRecords, List.map_append, fallbackRecords_pods, List.mem_append, List.mem_filter,
    decide_eq_true_eq, List.map_append, List.mem_append, mem_pods_execRecords]
  tauto

/-- With every storage claim there, each record is the one the node's first working source
gives. -/
theorem grastateRecords_spec
    (hc : ∀ n ∈ expectedNodes cfg mdb, obs.claimExists ("storage-" ++ n) = true) :
    ∀ r ∈ grastateRecords cfg mdb obs pl, r = grastateOf obs pl r.pod := by
  intro r hr
  simp only [grastateRecords, List.mem_append] at hr
  rcases hr with (hr | hr) | hr
  · simp [grastateOf, (mem_execRecords obs pl).1 hr]
  · have hn := (mem_pods_probeRecords cfg mdb obs pl).1 (List.mem_map_of_mem _ hr)
    simp [grastateOf, hn.2.1, probeResult_of_mem_probeRecords cfg mdb obs pl hr]
  · obtain ⟨he, hn, hg⟩ := (mem_fallbackRecords cfg mdb obs pl).1 hr
    rw [List.map_append, List.mem_append, mem_pods_execRecords, not_or,
      Option.not_isSome_iff_eq_none] at hn
    have hp : probeResult obs r.pod = none := by
      rw [← Option.not_isSome_iff_eq_none]
      exact fun h => hn.2 ((mem_pods_probeRecords cfg mdb obs pl).2 ⟨he, hn.1, hc _ he, h⟩)
    rw [grastateOf, hn.1, hp]
    exact hg

/-! ## The wsrep map -/

/-- The lookup of a list of pairs `(n, f n)`. -/
theorem lookup_map_pair {β : Type} (f : String → β) (l : List String) (a : String) :
    (l.map fun n => (n, f n)).lookup a = if a ∈ l then some (f a) else none := by
  induction l with
  | nil => rfl
  | cons b l ih =>
    by_cases h : a = b
    · subst h; simp
    · have hb : (a == b) = false := by simp [h]
      simp only [List.map_cons, List.lookup_cons, hb, ih, List.mem_cons, h, false_or]

theorem wsrepEntries_keys :
    (wsrepEntries obs pl).map (·.1) = obs.wsrepOrder.perm (pl.healthy.map (·.name)) := by
  simp [wsrepEntries, List.map_map, Function.comp_def]

theorem wsrepEntries_nodup : ((wsrepEntries obs pl).map (·.1)).Nodup := by
  rw [wsrepEntries_keys]
  refine (obs.wsrepOrder.perm_spec _).nodup_iff.2 ?_
  exact pl.names_nodup.sublist
    (((List.filter_sublist _).trans pl.running_sublist).map _)

/-- Whatever order the loop visits it in, the wsrep map holds the status of each healthy running
pod and of no other. -/
theorem lookup_wsrepEntries (n : String) :
    (wsrepEntries obs pl).lookup n =
      if n ∈ pl.healthy.map (·.name) then some (wsrepOf obs n) else none := by
  simp only [wsrepEntries, lookup_map_pair, (obs.wsrepOrder.perm_spec _).mem_iff]

/-! ## `triageCollect` -/

/-- The data `triageCollect` returns when it does not abort. -/
def collected : TriageData where
  runningPods := pl.running.map (·.name)
  missingNodes := pl.missing (expectedNodes cfg mdb)
  crashloopPods := pl.crashlooping.map (·.name)
  grastateData := grastateRecords cfg mdb obs pl
  wsrepMap := wsrepEntries obs pl
  diskUsage := diskUsage obs pl
  crashReasons := crashReason obs pl
  grastate_nodup := grastateRecords_nodup cfg mdb obs pl
  wsrep_nodup := wsrepEntries_nodup obs pl

/-- `triageCollect`: the pod list, then the abort on missing storage claims, then the data. -/
def triageCollect : Except String TriageData :=
  match obs.podList with
  | .error e => .error ("failed to list pods: " ++ e)
  | .ok pl =>
    let missingStorage := missingStorage cfg mdb obs
    if missingStorage.isEmpty then .ok (collected cfg mdb obs pl)
    else .error ("ABORTING: Missing storage PVCs: " ++ ", ".intercalate missingStorage ++
      ". Resolve before proceeding")

/-- `Triage`: collect, then analyse.  The display is left out. -/
def triage : Except String TriageResult :=
  match triageCollect cfg mdb obs with
  | .ok data => .ok (triageAnalyze cfg mdb data)
  | .error e => .error ("triage collect failed: " ++ e)

theorem missingStorage_eq_nil :
    missingStorage cfg mdb obs = [] ↔
      ∀ n ∈ expectedNodes cfg mdb, obs.claimExists ("storage-" ++ n) = true := by
  simp only [missingStorage, List.filter_eq_nil_iff, (obs.pvcOrder.perm_spec _).mem_iff,
    Bool.not_eq_true', Bool.not_eq_false]

/-- What a successful collection is. -/
theorem triageCollect_eq_ok {data : TriageData} :
    triageCollect cfg mdb obs = .ok data ↔ ∃ pl, obs.podList = .ok pl ∧
      (∀ n ∈ expectedNodes cfg mdb, obs.claimExists ("storage-" ++ n) = true) ∧
      data = collected cfg mdb obs pl := by
  unfold triageCollect
  split
  next e he => simp [he]
  next pl hpl =>
    rw [← missingStorage_eq_nil]
    dsimp only
    split
    next h =>
      simp only [Except.ok.injEq, hpl, true_and, exists_eq_left']
      exact ⟨fun h' => ⟨List.isEmpty_iff.1 h, h'.symm⟩, fun h' => h'.2.symm⟩
    next h =>
      rw [List.isEmpty_iff] at h
      simp [hpl, h]

/-! ## A three-node cluster -/

/-- Three nodes, `db-0` to `db-2`, with no recovery data from the operator. -/
def threeNodes : MariaDB := ⟨3, fun _ => none, fun _ => none⟩

def demoConfig : Config := { clusterName := "db", ns := "db" }

/-- `db-0` runs and is ready, `db-1` is crash-looping, and `db-2` has no pod. -/
def demoPods : PodList :=
  ⟨[⟨"db-0", true, some true, "n1"⟩, ⟨"db-1", true, some false, "n2"⟩], by decide⟩

/-- Every claim exists, every `cat` prints seqno 7, the probe of `db-2` prints seqno 5, and every
wsrep query fails. -/
def demoObserved : Observed where
  podList := .ok demoPods
  claimExists _ := true
  catGrastate _ := some "seqno: 7"
  probeCreated _ := true
  probeLogs _ := some "seqno: 5"
  wsrepQuery _ := none
  logs _ := none
  df _ := none
  pvcOrder := .insertion
  probeOrder := .insertion
  wsrepOrder := .insertion

theorem triageCollect_demo :
    triageCollect demoConfig threeNodes demoObserved =
      .ok (collected demoConfig threeNodes demoObserved demoPods) :=
  (triageCollect_eq_ok _ _ _).2 ⟨demoPods, rfl, fun _ _ => rfl, rfl⟩

/-! ## What triage gets -/

/-- **The grastate records.**  For every observation and every order of the map loops, when
triage gets its data, the nodes with a record are the expected nodes and the pods whose
`grastate.dat` was read, and each record is the one its node's first working source gives. -/
theorem triageCollect_grastate {data : TriageData} (h : triageCollect cfg mdb obs = .ok data) :
    ∃ pl, obs.podList = .ok pl ∧
      (∀ n, n ∈ data.grastateData.map (·.pod) ↔
        n ∈ expectedNodes cfg mdb ∨ (readOf obs pl n).isSome) ∧
      ∀ r ∈ data.grastateData, r = grastateOf obs pl r.pod := by
  obtain ⟨pl, hpl, hc, rfl⟩ := (triageCollect_eq_ok cfg mdb obs).1 h
  exact ⟨pl, hpl, fun _ => mem_pods_grastateRecords cfg mdb obs pl,
    grastateRecords_spec cfg mdb obs pl hc⟩

theorem triageCollect_grastate_threeNodes :
    ∃ data, triageCollect demoConfig threeNodes demoObserved = .ok data ∧
      ∃ pl, demoObserved.podList = .ok pl ∧
        (∀ n, n ∈ data.grastateData.map (·.pod) ↔
          n ∈ expectedNodes demoConfig threeNodes ∨ (readOf demoObserved pl n).isSome) ∧
        ∀ r ∈ data.grastateData, r = grastateOf demoObserved pl r.pod :=
  ⟨_, triageCollect_demo, triageCollect_grastate _ _ _ triageCollect_demo⟩

/-- On collected data, `buildAssessments` sees a pod as running exactly when it is a healthy
running pod, and then it sees that pod's wsrep entry. -/
theorem facts_collected (b : Int) (gs : Grastate) :
    (facts mdb (collected cfg mdb obs pl) b gs).isRunning =
        decide (gs.pod ∈ pl.healthy.map (·.name)) ∧
      (facts mdb (collected cfg mdb obs pl) b gs).ws =
        if gs.pod ∈ pl.healthy.map (·.name) then some (wsrepOf obs gs.pod) else none := by
  refine ⟨?_, lookup_wsrepEntries obs pl gs.pod⟩
  simp only [facts, collected, List.contains, List.elem_eq_mem, PodList.name_mem_healthy,
    Bool.decide_and, decide_not]

/-- The switch's sixth case needs a running node without a wsrep entry. -/
theorem Facts.case_noWsrep {f : Facts} {safe : Bool} (h : f.case safe = .noWsrep) :
    f.isRunning = true ∧ f.ws = none := by
  cases hr : f.isRunning
  · simp [Facts.case, hr, ite_eq_iff] at h
  cases hw : f.ws
  · exact ⟨rfl, rfl⟩
  · simp [Facts.case, hr, hw, ite_eq_iff] at h

/-- A running node whose status is empty, not `OFF`, is in the fifth case when safe. -/
theorem Facts.case_of_emptyStatus {f : Facts} (hr : f.isRunning = true) (h0 : f.wsState = 0)
    (hc : f.wsConnected = "") (hd : f.wsReady = "") (hs : f.wsClusterStatus = "") :
    f.case true = .nonPrimary := by
  simp [Facts.case, hr, h0, hc, hd, hs]

/-- **No "wsrep query failed" verdict.**  On the data `triageCollect` gathers,
`buildAssessments` never takes its case for a running node without a wsrep entry: a healthy
running pod always has one, the zero status when its query failed.  Such a pod, when triage
finds it safe to heal, is assessed as in a non-primary component. -/
theorem triageCollect_noWsrep {data : TriageData} (h : triageCollect cfg mdb obs = .ok data)
    (b : Int) (gs : Grastate) :
    (∀ safe, (facts mdb data b gs).case safe ≠ .noWsrep) ∧
      ((facts mdb data b gs).isRunning = true → obs.wsrepQuery gs.pod = none →
        (facts mdb data b gs).case true = .nonPrimary) := by
  obtain ⟨pl, -, -, rfl⟩ := (triageCollect_eq_ok cfg mdb obs).1 h
  obtain ⟨hr, hw⟩ := facts_collected cfg mdb obs pl b gs
  refine ⟨fun safe hc => ?_, fun hrun hq => ?_⟩
  · obtain ⟨h₁, h₂⟩ := Facts.case_noWsrep hc
    rw [hr, decide_eq_true_eq] at h₁
    rw [hw, if_pos h₁] at h₂
    cases h₂
  · have hl : (wsrepEntries obs pl).lookup gs.pod = some {} := by
      rw [hr, decide_eq_true_eq] at hrun
      rw [lookup_wsrepEntries, if_pos hrun, wsrepOf, hq]
    refine Facts.case_of_emptyStatus hrun ?_ ?_ ?_ ?_ <;> simp only [facts, collected, hl]

theorem triageCollect_noWsrep_threeNodes :
    ∃ data, triageCollect demoConfig threeNodes demoObserved = .ok data ∧
      ∀ b gs, (∀ safe, (facts threeNodes data b gs).case safe ≠ .noWsrep) ∧
        ((facts threeNodes data b gs).isRunning = true → demoObserved.wsrepQuery gs.pod = none →
          (facts threeNodes data b gs).case true = .nonPrimary) :=
  ⟨_, triageCollect_demo, triageCollect_noWsrep _ _ _ triageCollect_demo⟩

/-- **The wsrep map.**  Whatever order the loops visit it in, when triage gets its data the
wsrep map holds a status for exactly the running pods that are not crash-looping: the parsed
output of the pod's query, or the zero status when the query failed. -/
theorem triageCollect_wsrep {data : TriageData} (h : triageCollect cfg mdb obs = .ok data)
    (n : String) :
    data.wsrepMap.lookup n =
      if n ∈ data.runningPods ∧ n ∉ data.crashloopPods then some (wsrepOf obs n) else none := by
  obtain ⟨pl, -, -, rfl⟩ := (triageCollect_eq_ok cfg mdb obs).1 h
  simp only [collected, lookup_wsrepEntries, PodList.name_mem_healthy]

theorem triageCollect_wsrep_threeNodes :
    ∃ data, triageCollect demoConfig threeNodes demoObserved = .ok data ∧
      ∀ n, data.wsrepMap.lookup n = if n ∈ data.runningPods ∧ n ∉ data.crashloopPods then
        some (wsrepOf demoObserved n) else none :=
  ⟨_, triageCollect_demo, triageCollect_wsrep _ _ _ triageCollect_demo⟩

/-! ## `Triage`, end to end -/

theorem triage_eq_ok {res : TriageResult} :
    triage cfg mdb obs = .ok res ↔
      ∃ data, triageCollect cfg mdb obs = .ok data ∧ res = triageAnalyze cfg mdb data := by
  unfold triage
  split <;> simp [*, eq_comm]

theorem buildAssessments_pods (data : TriageData) (comparison : DataComparison) :
    (buildAssessments cfg mdb data comparison).map (·.pod) = data.grastateData.map (·.pod) := by
  simp [buildAssessments, assess, Function.comp_def]

/-- **One assessment per node.**  When `Triage` returns, its assessments are of distinct pods:
every expected node, and every other pod whose `grastate.dat` was read in it. -/
theorem triage_assessments {res : TriageResult} (h : triage cfg mdb obs = .ok res) :
    ∃ pl, obs.podList = .ok pl ∧ (res.assessments.map (·.pod)).Nodup ∧
      ∀ n, n ∈ res.assessments.map (·.pod) ↔
        n ∈ expectedNodes cfg mdb ∨ (readOf obs pl n).isSome := by
  obtain ⟨data, hd, rfl⟩ := (triage_eq_ok cfg mdb obs).1 h
  obtain ⟨pl, hpl, -, rfl⟩ := (triageCollect_eq_ok cfg mdb obs).1 hd
  refine ⟨pl, hpl, ?_, fun n => ?_⟩
  · exact (buildAssessments_pods cfg mdb _ _).symm ▸ grastateRecords_nodup cfg mdb obs pl
  · exact (buildAssessments_pods cfg mdb _ _).symm ▸ mem_pods_grastateRecords cfg mdb obs pl

theorem triage_assessments_threeNodes :
    ∃ res, triage demoConfig threeNodes demoObserved = .ok res ∧
      ∃ pl, demoObserved.podList = .ok pl ∧ (res.assessments.map (·.pod)).Nodup ∧
        ∀ n, n ∈ res.assessments.map (·.pod) ↔
          n ∈ expectedNodes demoConfig threeNodes ∨ (readOf demoObserved pl n).isSome :=
  have h := (triage_eq_ok demoConfig threeNodes demoObserved).2 ⟨_, triageCollect_demo, rfl⟩
  ⟨_, h, triage_assessments _ _ _ h⟩

end Galera
end Hasteward
