import Hasteward.Cnpg.Triage
import Mathlib.Data.Prod.Lex

/-!
# The CNPG split-brain verdict, and what a heal verdict guarantees

Two facts about `Hasteward.Cnpg.Triage`, one about each half of `triageAnalyze`.

* `safeToHeal_eq_false_iff`: `crossInstanceComparison` reports split-brain exactly when some
  non-primary instance with a known timeline is ahead of the primary, on a later timeline or on
  the same one with a later checkpoint LSN.  This is not immediate from the code: the loop
  compares timelines against a *running maximum* and LSNs against the *primary's*, and it is the
  invariant `ScanInv` — the running maximum never drops below the primary's timeline, and leaves
  it only after a flag was raised — that makes the two agree for every order of the records.
* `behind_of_needsHeal`: a record `buildAssessments` marks `NeedsHeal` is not the primary's, was
  judged with `SafeToHeal`, has a known timeline, and its `(timeline, LSN)` pair is
  lexicographically below the primary's.  Together with the repair gates this is what keeps a
  heal from destroying data that is not behind (`Hasteward.Cnpg.Repair`).
-/

set_option autoImplicit false

namespace Hasteward
namespace Cnpg

open Go

/-! ## The primary's record -/

/-- The timeline `triageCollect` keeps for the primary is the timeline of its record. -/
theorem primary_snd (data : TriageData) (p : String) :
    (data.primary p).2 = (data.primary p).1.timeline := by
  unfold TriageData.primary
  split
  · exact (‹ControlData›).timeline_trimmed
  · rfl

theorem primaryMark_eq (data : TriageData) (p : String) :
    primaryMark data p =
      (parseTimelineInt (data.primary p).1.timeline, (data.primary p).1.checkpointLocation) := by
  rw [primaryMark, primary_snd]

/-! ## The loop invariant of `crossInstanceComparison` -/

section Scan

variable (primaryName : String) (pTL : Int) (pLSN : String)

/-- I-SAFE's notion of an instance ahead of the primary, whose timeline is `pTL` and checkpoint
LSN `pLSN`: not the primary, a known timeline, and a later timeline, or the same one with a
later LSN where both LSNs are known. -/
def AheadOfPrimary (inst : ControlData) : Prop :=
  inst.pod ≠ primaryName ∧ inst.timeline ≠ "unknown" ∧
    (parseTimelineInt inst.timeline > pTL ∨
      (parseTimelineInt inst.timeline = pTL ∧ inst.checkpointLocation ≠ "unknown" ∧
        pLSN ≠ "unknown" ∧ parseLSNValue inst.checkpointLocation > parseLSNValue pLSN))

/-- What the loop keeps true of the records `seen` so far. -/
structure ScanInv (st : Scan) (seen : List ControlData) : Prop where
  ge : pTL ≤ st.mostAdvancedTL
  flagged_of_ne : st.mostAdvancedTL ≠ pTL → st.splitBrain ≠ []
  flagged_iff : st.splitBrain ≠ [] ↔ ∃ i ∈ seen, AheadOfPrimary primaryName pTL pLSN i

theorem scanInv_init :
    ScanInv primaryName pTL pLSN ⟨primaryName, pTL, pLSN, []⟩ [] :=
  ⟨le_refl _, fun h => absurd rfl h, by simp⟩

variable {primaryName pTL pLSN}

/-- A step that changes neither the maximum nor the flags keeps the invariant, as long as the
new record is not a fresh witness. -/
theorem ScanInv.skip {st : Scan} {seen : List ControlData} {inst : ControlData}
    (h : ScanInv primaryName pTL pLSN st seen)
    (hw : AheadOfPrimary primaryName pTL pLSN inst → st.splitBrain ≠ []) :
    ScanInv primaryName pTL pLSN st (seen ++ [inst]) := by
  refine ⟨h.ge, h.flagged_of_ne, ?_⟩
  simp only [List.mem_append, List.mem_singleton, exists_eq_or_imp]
  constructor
  · exact fun hs => (h.flagged_iff.1 hs).imp fun i hi => ⟨.inl hi.1, hi.2⟩
  · rintro ⟨i, hi | rfl, ha⟩
    · exact h.flagged_iff.2 ⟨i, hi, ha⟩
    · exact hw ha

/-- A step that raises a flag keeps the invariant, given a witness among the records seen. -/
theorem ScanInv.flag {st' : Scan} {seen : List ControlData} {inst : ControlData}
    (ge : pTL ≤ st'.mostAdvancedTL) (hne : st'.splitBrain ≠ [])
    (hw : ∃ i ∈ seen ++ [inst], AheadOfPrimary primaryName pTL pLSN i) :
    ScanInv primaryName pTL pLSN st' (seen ++ [inst]) :=
  ⟨ge, fun _ => hne, ⟨fun _ => hw, fun _ => hne⟩⟩

theorem scanInv_step {st : Scan} {seen : List ControlData} (inst : ControlData)
    (h : ScanInv primaryName pTL pLSN st seen) :
    ScanInv primaryName pTL pLSN (scanStep primaryName pTL pLSN st inst) (seen ++ [inst]) := by
  have hlast : inst ∈ seen ++ [inst] := by simp
  dsimp only [scanStep]
  split
  next hskip =>
    -- the primary, or an unknown timeline: never a witness
    exact h.skip fun ha => absurd hskip (not_or.2 ⟨ha.1, ha.2.1⟩)
  next hskip =>
    have hflag : ∀ m : String, st.splitBrain ++ [m] ≠ [] := fun _ =>
      List.append_ne_nil_of_right_ne_nil _ (List.cons_ne_nil _ _)
    split
    next hgt =>
      -- a later timeline than the running maximum
      have hge := h.ge
      exact ScanInv.flag (by simp only; omega) (hflag _)
        ⟨inst, hlast, (not_or.1 hskip).1, (not_or.1 hskip).2, .inl (by omega)⟩
    next hgt =>
      split
      next hsame =>
        split
        next hlsn =>
          -- the running maximum's timeline and a later LSN than the primary's
          refine ScanInv.flag h.ge (hflag _) ⟨inst, hlast, (not_or.1 hskip).1, (not_or.1 hskip).2, ?_⟩
          by_cases hp : st.mostAdvancedTL = pTL
          · exact .inr ⟨hsame.1.trans hp, hsame.2.1, hsame.2.2, hlsn⟩
          · exact .inl (lt_of_le_of_ne h.ge (Ne.symm hp) |>.trans_eq hsame.1.symm)
        next hlsn =>
          -- the same timeline, but no later LSN
          refine h.skip fun ha => h.flagged_of_ne fun hp => ?_
          rcases ha.2.2 with hl | ⟨he, -, -, hv⟩
          · exact absurd (hsame.1 ▸ hp ▸ hl) (lt_irrefl _)
          · exact hlsn hv
      next hsame =>
        -- an earlier timeline than the running maximum, or an LSN that is not compared
        refine h.skip fun ha => h.flagged_of_ne fun hp => ?_
        rcases ha.2.2 with hl | ⟨he, hk, hpk, -⟩
        · exact hgt (hp ▸ hl)
        · exact hsame ⟨he.trans hp.symm, hk, hpk⟩

theorem scanInv_foldl (l : List ControlData) :
    ∀ (st : Scan) (seen : List ControlData), ScanInv primaryName pTL pLSN st seen →
      ScanInv primaryName pTL pLSN (l.foldl (scanStep primaryName pTL pLSN) st) (seen ++ l) := by
  induction l with
  | nil => intro st seen h; simpa using h
  | cons x xs ih =>
    intro st seen h
    simpa using ih _ _ (scanInv_step x h)

end Scan

theorem crossInstanceComparison_safeToHeal (data : TriageData) (primaryName : String) :
    (crossInstanceComparison data primaryName).safeToHeal =
      (scan data primaryName).splitBrain.isEmpty := rfl

/-- **I-SAFE for CNPG.**  `crossInstanceComparison` reports split-brain exactly when some record
is ahead of the primary's: not the primary, a known timeline, and a later timeline, or the same
timeline and a later checkpoint LSN (both known).  The primary's values are those of its record,
`TriageData.primary`. -/
theorem safeToHeal_eq_false_iff (data : TriageData) (primaryName : String) :
    (crossInstanceComparison data primaryName).safeToHeal = false ↔
      ∃ inst ∈ data.controlData, AheadOfPrimary primaryName
        (parseTimelineInt (data.primary primaryName).1.timeline)
        (data.primary primaryName).1.checkpointLocation inst := by
  have h := (@scanInv_foldl primaryName (parseTimelineInt (data.primary primaryName).2)
    (data.primary primaryName).1.checkpointLocation data.controlData _ [] (scanInv_init _ _ _)).flagged_iff
  rw [List.nil_append] at h
  rw [crossInstanceComparison_safeToHeal, Bool.eq_false_iff, ne_eq, List.isEmpty_iff]
  exact h.trans (by rw [primary_snd])

/-! ## What a heal verdict guarantees -/

/-- The switch marks a record `NeedsHeal` only in two of its cases: a lower timeline, and the
same timeline with a lower LSN. -/
theorem verdict_needsHeal {cfg : Config} {data : TriageData} {safe : Bool} {pTL pLSN pod : String}
    {f : Facts} (h : (verdict cfg data safe pTL pLSN pod f).needsHeal = true) :
    f.case safe = .behindTimeline ∨ f.case safe = .behindLSN := by
  unfold verdict at h
  split at h
  case h_4 hc => exact .inl hc
  case h_6 hc => exact .inr hc
  all_goals (repeat' split at h) <;> nomatch h

/-- Both heal cases come after the primary and split-brain cases. -/
theorem Facts.case_heal {f : Facts} {safe : Bool}
    (h : f.case safe = .behindTimeline ∨ f.case safe = .behindLSN) :
    f.isPrimary = false ∧ safe = true ∧
      (f.behindTL = true ∨ (f.sameTL = true ∧ f.behindLSN = true)) := by
  simp [Facts.case, ite_eq_iff] at h
  rcases h with ⟨hp, hs, -, hb⟩ | ⟨hp, hs, -, -, -, ht, hl⟩
  · exact ⟨hp, hs, .inl hb⟩
  · exact ⟨hp, hs, .inr ⟨ht, hl⟩⟩

/-- A record strictly behind `p`: on an earlier timeline than `p`'s, or on the same one with an
earlier checkpoint LSN, as `parseTimelineInt` and `parseLSNValue` read them. -/
def Behind (inst p : ControlData) : Prop :=
  toLex (parseTimelineInt inst.timeline, parseLSNValue inst.checkpointLocation) <
    toLex (parseTimelineInt p.timeline, parseLSNValue p.checkpointLocation)

/-- A record marked `NeedsHeal` is not the primary, was judged with `SafeToHeal`, has a known
timeline, and is strictly behind the primary's record. -/
theorem behind_of_needsHeal {cfg : Config} {data : TriageData} {comparison : DataComparison}
    {primaryName : String} {inst : ControlData}
    (h : (assess cfg data comparison primaryName inst).needsHeal = true) :
    inst.pod ≠ primaryName ∧ comparison.safeToHeal = true ∧ inst.timeline ≠ "unknown" ∧
      Behind inst (data.primary primaryName).1 := by
  obtain ⟨hp, hs, hb⟩ := Facts.case_heal (verdict_needsHeal h)
  have htl : trimSpace inst.timeline = inst.timeline := inst.timeline_trimmed
  have hlsn : trimSpace inst.checkpointLocation = inst.checkpointLocation :=
    inst.checkpointLocation_trimmed
  have hplsn : trimSpace (data.primary primaryName).1.checkpointLocation =
      (data.primary primaryName).1.checkpointLocation :=
    (data.primary primaryName).1.checkpointLocation_trimmed
  simp only [facts, primary_snd, htl, hlsn, hplsn, beq_iff_eq, bne_iff_ne, ne_eq,
    Bool.and_eq_true, decide_eq_true_eq, Bool.not_eq_true', beq_eq_false_iff_ne] at hp hb
  refine ⟨hp, hs, ?_, ?_⟩
  · rcases hb with ⟨⟨h1, -⟩, -⟩ | ⟨⟨-, h1⟩, -⟩ <;> exact h1
  · rw [Behind, Prod.Lex.lt_iff]
    dsimp only
    rcases hb with ⟨-, hlt⟩ | ⟨⟨heq, -⟩, -, hlt⟩
    · exact .inl hlt
    · exact .inr ⟨congrArg parseTimelineInt heq, hlt⟩

end Cnpg
end Hasteward
