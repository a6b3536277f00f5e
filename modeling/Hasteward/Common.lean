import Mathlib.Data.List.Basic

/-!
# The records both engines share

`common.InstanceAssessment`, `common.DataComparison`, `common.TriageResult` and `common.Config`,
the one piece of `time.Time` the core formats, the job-start timestamp, and the request both
engines' restores send the archiver.

Every field of a Go struct that an engine does not set reads as Go's zero value.  That matters
here: the repair orchestrator reads `IsRunning`, `IsReady` and `Instance` off every assessment,
and which engine sets which of them is part of its behaviour.  So the structures below give every
field its zero value as default, and each engine's `buildAssessments` sets exactly the fields
its Go source sets.

`Time` is a `time.Time` as seconds since the Unix epoch, in UTC; `Time.civil` turns it into a
calendar date by the usual days-to-civil computation, and `Time.jobID` and `Time.resticTime`
are the two layouts the core formats it in: `20060102T150405Z` (the `job` tag) and
`2006-01-02 15:04:05` (restic's `--time`).
-/

set_option autoImplicit false

namespace Hasteward

/-- `common.InstanceAssessment`: the triage verdict for one instance.  `instanceNum` is the Go
field `Instance`, the pod's ordinal; no engine sets it. -/
structure InstanceAssessment where
  pod : String := ""
  instanceNum : Int := 0
  isRunning : Bool := false
  isReady : Bool := false
  needsHeal : Bool := false
  notes : List String := []
  recommendation : String := ""
  /-- CNPG only. -/
  isPrimary : Bool := false
  timeline : Int := 0
  lsn : String := ""
  /-- Galera only. -/
  isInPrimary : Bool := false
  seqno : Int := 0
  effectiveSeqno : Int := 0
  seqnoSource : String := ""
  seqnoLag : Int := 0
  uuid : String := ""
  safeToBootstrap : String := ""
  wsrepState : Int := 0
  wsrepStateComment : String := ""
  wsrepConnected : String := ""
  wsrepReady : String := ""
  wsrepClusterStatus : String := ""
  crashReason : String := ""
  diskPct : Int := 0
  deriving Repr, DecidableEq

/-- `common.DataComparison`: the cross-instance verdict. -/
structure DataComparison where
  mostAdvanced : String := ""
  mostAdvancedValue : Int := 0
  safeToHeal : Bool := false
  warnings : List String := []
  splitBrainDetails : List String := []
  /-- CNPG only. -/
  checkpointLocation : String := ""
  /-- Galera only. -/
  primaryMembers : List String := []
  bestPrimarySeqno : Int := 0
  deriving Repr, DecidableEq

/-- `common.TriageResult`. -/
structure TriageResult where
  assessments : List InstanceAssessment := []
  dataComparison : DataComparison := {}
  clusterPhase : String := ""
  readyCount : Int := 0
  totalCount : Int := 0
  /-- Galera only. -/
  allNodesDown : Bool := false
  bestSeqnoNode : Option InstanceAssessment := none
  deriving Repr

/-- The fields of `common.Config` that the modelled operations read.  `instanceNumber` is the
`--instance` flag, a `*int`; `ns` is `Namespace`, a Lean keyword. -/
structure Config where
  clusterName : String
  ns : String
  instanceNumber : Option Int := none
  force : Bool := false
  backupsPath : String := ""
  noEscrow : Bool := false
  snapshot : String := ""
  resticPassword : String := ""
  healTimeout : Int := 0
  deleteTimeout : Int := 0
  deriving Repr, DecidableEq

/-! ## Loops that keep the largest -/

/-- The step of a loop that keeps the first element with the largest key: a later element takes
the place of the kept one only when its key is strictly larger. -/
def keepMax {α β : Type} (key : β → Int) (pick : α → β) (b : β) (a : α) : β :=
  if key (pick a) > key b then pick a else b

/-- Such a loop ends on its start or on one of the elements, with a key no smaller than the
start's nor than any element's. -/
theorem foldl_keepMax {α β : Type} (key : β → Int) (pick : α → β) (l : List α) (init : β) :
    (l.foldl (keepMax key pick) init = init ∨ ∃ a ∈ l, l.foldl (keepMax key pick) init = pick a) ∧
      key init ≤ key (l.foldl (keepMax key pick) init) ∧
      ∀ a ∈ l, key (pick a) ≤ key (l.foldl (keepMax key pick) init) := by
  induction l generalizing init with
  | nil => exact ⟨.inl rfl, Int.le_refl _, by simp⟩
  | cons a l ih =>
    obtain ⟨hr, hle, hall⟩ := ih (keepMax key pick init a)
    have hstep : key init ≤ key (keepMax key pick init a) ∧
        key (pick a) ≤ key (keepMax key pick init a) := by
      unfold keepMax
      split <;> omega
    have hpick : keepMax key pick init a = pick a ∨ keepMax key pick init a = init := by
      unfold keepMax
      split <;> simp
    refine ⟨?_, Int.le_trans hstep.1 hle, ?_⟩
    · rw [List.foldl_cons]
      rcases hr with hr | ⟨a', ha', hr⟩
      · rw [hr]
        exact hpick.symm.imp id fun h => ⟨a, List.mem_cons_self _ _, h⟩
      · exact .inr ⟨a', List.mem_cons_of_mem _ ha', hr⟩
    · simp only [List.mem_cons, forall_eq_or_imp]
      exact ⟨Int.le_trans hstep.2 hle, hall⟩

/-! ## Time -/

/-- A `time.Time` in whole seconds since the Unix epoch; the core never looks below a second. -/
structure Time where
  unix : Int
  deriving Repr, DecidableEq

/-- The proleptic Gregorian date `(year, month, day)` of a day number counted from 1970-01-01. -/
def civilOfDays (z : Int) : Int × Nat × Nat :=
  let z := z + 719468
  let era := z / 146097
  let doe := z - era * 146097
  let yoe := (doe - doe / 1460 + doe / 36524 - doe / 146096) / 365
  let doy := doe - (365 * yoe + yoe / 4 - yoe / 100)
  let mp := (5 * doy + 2) / 153
  let d := doy - (153 * mp + 2) / 5 + 1
  let m := if mp < 10 then mp + 3 else mp - 9
  (yoe + era * 400 + (if m ≤ 2 then 1 else 0), m.toNat, d.toNat)

/-- The UTC calendar date and time of day of `t`: `(year, month, day, hour, minute, second)`. -/
def Time.civil (t : Time) : Int × Nat × Nat × Nat × Nat × Nat :=
  let (y, mo, d) := civilOfDays (t.unix / 86400)
  let s := (t.unix % 86400).toNat
  (y, mo, d, s / 3600, s / 60 % 60, s % 60)

/-- Go's `appendInt(b, x, width)`: decimal, zero-padded to `width`, with a leading `-` when
negative. -/
def padInt (width : Nat) (x : Int) : String :=
  let digits := toString x.natAbs
  (if x < 0 then "-" else "") ++ String.mk (List.replicate (width - digits.length) '0') ++ digits

/-- `t.UTC().Format("20060102T150405Z")`: the `job` tag of a repair. -/
def Time.jobID (t : Time) : String :=
  let (y, mo, d, h, mi, s) := t.civil
  padInt 4 y ++ padInt 2 mo ++ padInt 2 d ++ "T" ++ padInt 2 h ++ padInt 2 mi ++ padInt 2 s ++ "Z"

/-- `t.UTC().Format("2006-01-02 15:04:05")`: the `--time` restic stamps a snapshot with. -/
def Time.resticTime (t : Time) : String :=
  let (y, mo, d, h, mi, s) := t.civil
  padInt 4 y ++ "-" ++ padInt 2 mo ++ "-" ++ padInt 2 d ++ " " ++ padInt 2 h ++ ":" ++
    padInt 2 mi ++ ":" ++ padInt 2 s

/-- Spec scenario 6's job start, 2024-07-01T12:00:00Z. -/
example : (Time.mk 1719835200).jobID = "20240701T120000Z" := by decide

/-! ## What a restore asks the archiver for -/

/-- The arguments of `rc.Dump(ctx, snapshotID, stdinFilename, pw, filterTags)`, restic's
`dump --tag k=v,... <snapshotID> <path>`: the tags select the snapshots `latest` chooses among. -/
structure DumpRequest where
  snapshotID : String
  path : String
  filterTags : List (String × String)
  deriving Repr, DecidableEq

/-- The request of both engines' `restoreDump`: `cfg.Snapshot`, or `"latest"`; the dump file
under `<ns>/<cluster>/`, prefixed with the instance's ordinal when one is given; and the
snapshots of this engine's cluster. -/
def dumpRequest (engine dumpFilename : String) (cfg : Config) : DumpRequest :=
  let dumpFile := match cfg.instanceNumber with
    | some n => toString n ++ "-" ++ dumpFilename
    | none => dumpFilename
  { snapshotID := if cfg.snapshot = "" then "latest" else cfg.snapshot
    path := cfg.ns ++ "/" ++ cfg.clusterName ++ "/" ++ dumpFile
    filterTags := [("engine", engine), ("cluster", cfg.clusterName), ("namespace", cfg.ns)] }

end Hasteward
