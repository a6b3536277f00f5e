import Hasteward.Cnpg.SplitBrain
import Hasteward.Cnpg.Lsn

/-!
# Which pod `crossInstanceComparison` reports as most advanced

`crossInstanceComparison` (`engine/cnpg/triage.go` 552-608) carries a candidate — `mostAdvanced`,
`mostAdvancedTL`, `mostAdvancedLSN` — from the primary through the control-data records, and
reports it as `MostAdvanced`, `MostAdvancedValue` and `CheckpointLocation`.  The candidate moves
only to a compared record on a *strictly later* timeline; the LSN branch of the loop raises a
split-brain flag and leaves the candidate where it is.

* `bestStep` is that loop cut down to the candidate's three variables, and `scanStep_best` says
  the full loop simulates it, so the candidate never depends on the flags.
* `FirstLatest` says what the candidate is: every compared record's timeline is at most the
  candidate's, and the candidate is the primary or the *first* compared record on that latest
  timeline, one later than the primary's, with its own checkpoint LSN.
  `crossInstanceComparison_firstLatest` proves it for every triage input, through the step lemma
  `FirstLatest.step`.
* The candidate is therefore the maximum of the timeline alone, not of `(timeline, LSN)`:
  `crossInstanceComparison_firstLatest_tiedTimeline` has two replicas on the latest timeline, and
  the one that comes first is reported although the other has the later LSN.
-/

set_option autoImplicit false

namespace Hasteward
namespace Cnpg

open Go

/-! ## The candidate -/

/-- The records the loop compares with its candidate: not the primary, and a known timeline. -/
def Compared (primaryName : String) (inst : ControlData) : Prop :=
  inst.pod ≠ primaryName ∧ inst.timeline ≠ "unknown"

instance (primaryName : String) : DecidablePred (Compared primaryName) :=
  fun _ => inferInstanceAs (Decidable (_ ∧ _))

/-- A record as a candidate: its pod, its timeline, and its checkpoint LSN. -/
def ControlData.mark (inst : ControlData) : String × Int × String :=
  (inst.pod, parseTimelineInt inst.timeline, inst.checkpointLocation)

/-- The loop's candidate: `mostAdvanced`, `mostAdvancedTL`, `mostAdvancedLSN`. -/
def Scan.best (st : Scan) : String × Int × String :=
  (st.mostAdvanced, st.mostAdvancedTL, st.mostAdvancedLSN)

/-- The candidate a comparison reports: `MostAdvanced`, `MostAdvancedValue`, `CheckpointLocation`. -/
def mostAdvancedMark (c : DataComparison) : String × Int × String :=
  (c.mostAdvanced, c.mostAdvancedValue, c.checkpointLocation)

/-- One iteration of `crossInstanceComparison`'s loop on the candidate alone: skip the primary
and unknown timelines; a timeline above the candidate's makes the record the candidate. -/
def bestStep (primaryName : String) (b : String × Int × String) (inst : ControlData) :
    String × Int × String :=
  if inst.pod = primaryName ∨ inst.timeline = "unknown" then b
  else if parseTimelineInt inst.timeline > b.2.1 then inst.mark
  else b

section Loop

variable {primaryName : String} {pTL : Int} {pLSN : String}

/-- The loop moves its candidate as `bestStep` does, whatever it does to the flags. -/
theorem scanStep_best (st : Scan) (inst : ControlData) :
    (scanStep primaryName pTL pLSN st inst).best = bestStep primaryName st.best inst := by
  dsimp only [scanStep, bestStep, Scan.best]
  split_ifs <;> rfl

theorem foldl_scanStep_best (l : List ControlData) :
    ∀ st : Scan, (l.foldl (scanStep primaryName pTL pLSN) st).best =
      l.foldl (bestStep primaryName) st.best := by
  induction l with
  | nil => intro st; rfl
  | cons x xs ih => intro st; simp only [List.foldl, ih, scanStep_best]

end Loop

/-- `crossInstanceComparison`'s candidate is the one `bestStep` carries from the primary's. -/
theorem mostAdvancedMark_crossInstanceComparison (data : TriageData) (primaryName : String) :
    mostAdvancedMark (crossInstanceComparison data primaryName) =
      data.controlData.foldl (bestStep primaryName)
        (primaryName, parseTimelineInt (data.primary primaryName).1.timeline,
          (data.primary primaryName).1.checkpointLocation) := by
  show (scan data primaryName).best = _
  rw [scan, foldl_scanStep_best, primaryMark_eq]
  rfl

/-! ## The first record on the latest timeline -/

section Invariant

variable (primaryName : String) (pTL : Int) (pLSN : String)

/-- What the candidate `b` is after the records `seen`, from the primary's timeline `pTL` and
LSN `pLSN`: no compared record has a later timeline, and `b` is the primary, or the first
compared record whose timeline it is, a later one than the primary's. -/
structure FirstLatest (b : String × Int × String) (seen : List ControlData) : Prop where
  le : ∀ i ∈ seen, Compared primaryName i → parseTimelineInt i.timeline ≤ b.2.1
  first : b = (primaryName, pTL, pLSN) ∨
    ∃ pre i post, seen = pre ++ i :: post ∧ Compared primaryName i ∧ b = i.mark ∧
      pTL < parseTimelineInt i.timeline ∧
      ∀ j ∈ pre, Compared primaryName j → parseTimelineInt j.timeline < parseTimelineInt i.timeline

theorem firstLatest_init : FirstLatest primaryName pTL pLSN (primaryName, pTL, pLSN) [] :=
  ⟨fun _ h => absurd h (List.not_mem_nil _), .inl rfl⟩

variable {primaryName pTL pLSN}

/-- The candidate's timeline never drops below the primary's. -/
theorem FirstLatest.ge {b : String × Int × String} {seen : List ControlData}
    (h : FirstLatest primaryName pTL pLSN b seen) : pTL ≤ b.2.1 := by
  rcases h.first with rfl | ⟨_, i, _, -, -, rfl, hlt, -⟩
  · exact le_refl _
  · exact hlt.le

/-- A record that does not move the candidate keeps the invariant. -/
theorem FirstLatest.keep {b : String × Int × String} {seen : List ControlData}
    {inst : ControlData} (h : FirstLatest primaryName pTL pLSN b seen)
    (hle : Compared primaryName inst → parseTimelineInt inst.timeline ≤ b.2.1) :
    FirstLatest primaryName pTL pLSN b (seen ++ [inst]) := by
  refine ⟨fun i hi hc => ?_, ?_⟩
  · rcases List.mem_append.1 hi with hi | hi
    · exact h.le i hi hc
    · exact List.mem_singleton.1 hi ▸ hle (List.mem_singleton.1 hi ▸ hc)
  · rcases h.first with hp | ⟨pre, i, post, rfl, hc, hb, hlt, hpre⟩
    · exact .inl hp
    · exact .inr ⟨pre, i, post ++ [inst], by simp, hc, hb, hlt, hpre⟩

theorem FirstLatest.step {b : String × Int × String} {seen : List ControlData}
    (inst : ControlData) (h : FirstLatest primaryName pTL pLSN b seen) :
    FirstLatest primaryName pTL pLSN (bestStep primaryName b inst) (seen ++ [inst]) := by
  unfold bestStep
  split
  next hskip =>
    -- the primary, or an unknown timeline: not compared
    exact h.keep fun hc => absurd hskip (not_or.2 hc)
  next hskip =>
    split
    next hgt =>
      -- a later timeline: the record is the new candidate
      have hc : Compared primaryName inst := not_or.1 hskip
      refine ⟨fun i hi hci => ?_, .inr ⟨seen, inst, [], rfl, hc, rfl, h.ge.trans_lt hgt,
        fun j hj hcj => (h.le j hj hcj).trans_lt hgt⟩⟩
      rcases List.mem_append.1 hi with hi | hi
      · exact (h.le i hi hci).trans hgt.le
      · exact (List.mem_singleton.1 hi).symm ▸ le_refl _
    next hgt => exact h.keep fun _ => not_lt.1 hgt

theorem firstLatest_foldl (l : List ControlData) :
    ∀ (b : String × Int × String) (seen : List ControlData),
      FirstLatest primaryName pTL pLSN b seen →
        FirstLatest primaryName pTL pLSN (l.foldl (bestStep primaryName) b) (seen ++ l) := by
  induction l with
  | nil => intro b seen h; simpa using h
  | cons x xs ih =>
    intro b seen h
    simpa using ih _ _ (h.step x)

end Invariant

/-- **What `MostAdvanced` is.**  For every triage input, the pod `crossInstanceComparison`
reports, with its timeline and checkpoint LSN, is the first compared record on the latest
timeline among the primary's and the compared records', or the primary when no compared record
is on a later timeline than the primary's.  The LSN plays no part in the choice. -/
theorem crossInstanceComparison_firstLatest (data : TriageData) (primaryName : String) :
    FirstLatest primaryName (parseTimelineInt (data.primary primaryName).1.timeline)
      (data.primary primaryName).1.checkpointLocation
      (mostAdvancedMark (crossInstanceComparison data primaryName)) data.controlData := by
  rw [mostAdvancedMark_crossInstanceComparison]
  simpa using firstLatest_foldl data.controlData _ [] (firstLatest_init _ _ _)

/-- The primary `c-0` on timeline 1, and the replicas `c-1` and `c-2` both on timeline 2,
`c-2` with the later checkpoint LSN. -/
def tiedTimelineData : TriageData :=
  { runningPods := ["c-0", "c-1", "c-2"], missingInstances := [], crashloopPods := [],
    controlData := [⟨"c-0", "exec", "1", "0/A0", "", by decide, by decide⟩,
      ⟨"c-1", "exec", "2", "0/100", "", by decide, by decide⟩,
      ⟨"c-2", "exec", "2", "0/200", "", by decide, by decide⟩],
    streamingReplicas := [], diskUsage := fun _ => 0, pvcStates := fun _ => "Bound" }

/-- `c-1` is reported, although `c-2`, compared on the same timeline, has the later
`(timeline, LSN)` pair. -/
theorem crossInstanceComparison_firstLatest_tiedTimeline :
    mostAdvancedMark (crossInstanceComparison tiedTimelineData "c-0") = ("c-1", 2, "0/100") ∧
      ∃ i ∈ tiedTimelineData.controlData, Compared "c-0" i ∧
        toLex ((2 : Int), parseLSNValue "0/100") <
          toLex (parseTimelineInt i.timeline, parseLSNValue i.checkpointLocation) := by
  have h100 : parseLSNValue "0/100" = 256 := by
    rw [show "0/100" = formatLSN 0 256 by decide, parseLSNValue_formatLSN_of_lt] <;> decide
  have h200 : parseLSNValue "0/200" = 512 := by
    rw [show "0/200" = formatLSN 0 512 by decide, parseLSNValue_formatLSN_of_lt] <;> decide
  refine ⟨by rw [mostAdvancedMark_crossInstanceComparison]; decide,
    ⟨"c-2", "exec", "2", "0/200", "", by decide, by decide⟩, by simp [tiedTimelineData],
    by decide, ?_⟩
  rw [h100, h200, Prod.Lex.lt_iff]
  exact .inr ⟨by decide, by decide⟩

end Cnpg
end Hasteward
