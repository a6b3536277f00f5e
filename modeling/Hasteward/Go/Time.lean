import Mathlib.Data.Nat.Digits
import Hasteward.Calendar
import Hasteward.Go.Strings

/-!
# The `time` formats the retention windows compare

`ApplyGroupRetention` recognises a new day, ISO week or month by comparing *strings*: the group's
time formatted as `2006-01-02`, as `fmt.Sprintf("%d-%02d", ISOWeek())`, or as `2006-01`, with the
previous group's.  What the comparison decides is therefore a property of Go's formatting, and
this file proves it:

* `intValue_padInt`: the decimal `padInt` writes is read back as the number (`padInt_injective`),
  and two digits are two characters below 100 (`padInt_two_length`), so a key splits back into
  its fields (`sep_padInt_two_inj`).
* `Time.dateKey_eq_iff`, `Time.weekKey_eq_iff`, `Time.monthKey_eq_iff`: two times have the same
  key exactly when they have the same UTC date, ISO `(year, week)`, or UTC `(year, month)`.
* `dateKey_window`, `weekKey_window`, `monthKey_window`: each key is never empty, and its classes
  are the classes of a day, week or month number that never decreases with time (`WindowKey`).
  That is what makes the code's comparison with the previous group find the first group of each
  window.
-/

set_option autoImplicit false

namespace Hasteward

/-! ## Reading `padInt` back -/

/-- The value of a string of decimal digits. -/
def decimalValue (cs : List Char) : Nat := cs.foldl (fun n c => 10 * n + (c.toNat - 48)) 0

/-- What `padInt` is read back as: an optional `-`, then decimal digits. -/
def intValue : List Char → Int
  | c :: cs => if c = '-' then -(decimalValue cs : Int) else decimalValue (c :: cs)
  | [] => 0

theorem digitChar_value : ∀ k, k < 10 → (Nat.digitChar k).toNat - 48 = k := by decide

theorem digitChar_ne_minus : ∀ k, k < 10 → Nat.digitChar k ≠ '-' := by decide

theorem foldl_toDigitsCore (fuel n : Nat) (ds : List Char) (h : n < fuel) :
    (Nat.toDigitsCore 10 fuel n ds).foldl (fun n c => 10 * n + (c.toNat - 48)) 0 =
      ds.foldl (fun n c => 10 * n + (c.toNat - 48)) n := by
  induction fuel generalizing n ds with
  | zero => omega
  | succ fuel ih =>
    simp only [Nat.toDigitsCore]
    split
    · rw [List.foldl_cons, digitChar_value _ (by omega)]
      congr 1
      omega
    · rw [ih _ _ (by omega), List.foldl_cons, digitChar_value _ (by omega)]
      congr 1
      omega

theorem decimalValue_toDigits (n : Nat) : decimalValue (Nat.toDigits 10 n) = n :=
  foldl_toDigitsCore _ _ _ (Nat.lt_succ_self n)

theorem mem_toDigitsCore (fuel n : Nat) (ds : List Char) :
    ∀ c ∈ Nat.toDigitsCore 10 fuel n ds, c ∈ ds ∨ ∃ k < 10, c = Nat.digitChar k := by
  induction fuel generalizing n ds with
  | zero => exact fun c hc => .inl hc
  | succ fuel ih =>
    intro c hc
    simp only [Nat.toDigitsCore] at hc
    split at hc
    · rcases List.mem_cons.1 hc with rfl | hc
      · exact .inr ⟨_, Nat.mod_lt _ (by decide), rfl⟩
      · exact .inl hc
    · rcases ih _ _ c hc with hc | hc
      · rcases List.mem_cons.1 hc with rfl | hc
        · exact .inr ⟨_, Nat.mod_lt _ (by decide), rfl⟩
        · exact .inl hc
      · exact .inr hc

/-- The decimal text of an integer holds no white space. -/
theorem isSpace_toString_int (i : Int) : ∀ c ∈ (toString i).data, Go.isSpace c = false := by
  have hd : ∀ n, ∀ c ∈ Nat.toDigits 10 n, Go.isSpace c = false := fun n c hc => by
    rcases mem_toDigitsCore _ _ [] c hc with hc | ⟨k, hk, rfl⟩
    · cases hc
    · exact (by decide : ∀ k < 10, Go.isSpace (Nat.digitChar k) = false) k hk
  cases i with
  | ofNat m => exact hd m
  | negSucc m =>
    intro c hc
    change c ∈ '-' :: Nat.toDigits 10 (m + 1) at hc
    rcases List.mem_cons.1 hc with rfl | hc
    · decide
    · exact hd _ c hc

theorem toDigits_ne_minus (n : Nat) : ∀ c ∈ Nat.toDigits 10 n, c ≠ '-' := by
  intro c hc
  rcases mem_toDigitsCore _ _ [] c hc with hc | ⟨k, hk, rfl⟩
  · cases hc
  · exact digitChar_ne_minus k hk

theorem decimalValue_replicate_zero (k : Nat) (cs : List Char) :
    decimalValue (List.replicate k '0' ++ cs) = decimalValue cs := by
  have h : ∀ k, (List.replicate k '0').foldl (fun n c => 10 * n + (c.toNat - 48)) 0 = 0 := by
    intro k
    induction k with
    | zero => rfl
    | succ k ih => rw [List.replicate_succ', List.foldl_append, ih]; rfl
  rw [decimalValue, List.foldl_append, h]
  rfl

theorem intValue_of_ne_minus {cs : List Char} (h : ∀ c ∈ cs, c ≠ '-') :
    intValue cs = decimalValue cs := by
  cases cs with
  | nil => rfl
  | cons c cs => exact if_neg (h c (List.mem_cons_self _ _))

/-- `padInt` is read back as the number it writes. -/
theorem intValue_padInt (w : Nat) (x : Int) : intValue (padInt w x).data = x := by
  unfold padInt
  split
  · show intValue ('-' :: (List.replicate (w - (toString x.natAbs).length) '0' ++
      Nat.toDigits 10 x.natAbs)) = x
    rw [intValue, if_pos rfl, decimalValue_replicate_zero, decimalValue_toDigits]
    omega
  · show intValue (List.replicate (w - (toString x.natAbs).length) '0' ++
      Nat.toDigits 10 x.natAbs) = x
    rw [intValue_of_ne_minus, decimalValue_replicate_zero, decimalValue_toDigits]
    · omega
    · simp only [List.mem_append, List.mem_replicate]
      rintro c (⟨-, rfl⟩ | hc)
      · decide
      · exact toDigits_ne_minus _ c hc

theorem padInt_injective {w : Nat} {x y : Int} (h : padInt w x = padInt w y) : x = y := by
  rw [← intValue_padInt w x, ← intValue_padInt w y, h]

/-- `%02d` of a number below 100 is two characters. -/
theorem padInt_two_length {x : Int} (h0 : 0 ≤ x) (h : x < 100) : (padInt 2 x).data.length = 2 := by
  have hlen : (Nat.toDigits 10 x.natAbs).length ≤ 2 :=
    Nat.toDigitsCore_length 10 (by decide) _ _ 2 (by simp only [Nat.reducePow]; omega) (by decide)
  unfold padInt
  rw [if_neg (by omega)]
  show (List.replicate (2 - (Nat.toDigits 10 x.natAbs).length) '0' ++
    Nat.toDigits 10 x.natAbs).length = 2
  rw [List.length_append, List.length_replicate]
  omega

/-- A key that ends in `-` and a two-digit field splits back into its head and the field. -/
theorem sep_padInt_two_inj {a b : String} {x y : Int} (hx0 : 0 ≤ x) (hx : x < 100)
    (hy0 : 0 ≤ y) (hy : y < 100) (h : a ++ "-" ++ padInt 2 x = b ++ "-" ++ padInt 2 y) :
    a = b ∧ x = y := by
  have hd := congrArg String.data h
  simp only [String.data_append] at hd
  obtain ⟨hab, hxy⟩ := List.append_inj' hd
    (by rw [padInt_two_length hx0 hx, padInt_two_length hy0 hy])
  exact ⟨String.ext (List.append_cancel_right hab), padInt_injective (String.ext hxy)⟩

theorem sep_ne_empty (a b : String) : a ++ "-" ++ b ≠ "" := by
  intro h
  have := congrArg String.data h
  simp at this

/-! ## The three keys -/

/-- The UTC day of `t`, counted from 1970-01-01: the day `Time.civil` formats. -/
def Time.day (t : Time) : Int := t.unix / 86400

/-- `t.UTC().Format("2006-01-02")`. -/
def Time.dateKey (t : Time) : String :=
  let c := civilOfDays t.day
  padInt 4 c.1 ++ "-" ++ padInt 2 c.2.1 ++ "-" ++ padInt 2 c.2.2

/-- `t.UTC().Format("2006-01")`. -/
def Time.monthKey (t : Time) : String :=
  let c := civilOfDays t.day
  padInt 4 c.1 ++ "-" ++ padInt 2 c.2.1

/-- The weekday of day `z`, `0` for Sunday: 1970-01-01 was a Thursday. -/
def weekday (z : Int) : Int := (z + 4) % 7

/-- `Time.ISOWeek` of day `z`: the year of the Thursday of its week (weeks start on Monday), and
the week of that year the Thursday falls in, `yday / 7 + 1`. -/
def isoWeek (z : Int) : Int × Int :=
  let d := 4 - weekday z
  -- handle Sunday
  let d := if d = 4 then -3 else d
  let thu := z + d
  ((civilOfDays thu).1, dayOfYear thu / 7 + 1)

/-- `y, w := t.UTC().ISOWeek(); fmt.Sprintf("%d-%02d", y, w)`. -/
def Time.weekKey (t : Time) : String :=
  let w := isoWeek t.day
  padInt 0 w.1 ++ "-" ++ padInt 2 w.2

theorem Time.dateKey_eq_iff {s t : Time} :
    s.dateKey = t.dateKey ↔ civilOfDays s.day = civilOfDays t.day := by
  refine ⟨fun h => ?_, fun h => by rw [Time.dateKey, Time.dateKey, h]⟩
  have hs := civilOfDays_valid s.day
  have ht := civilOfDays_valid t.day
  obtain ⟨h', hd⟩ := sep_padInt_two_inj (by omega) (by omega) (by omega) (by omega) h
  obtain ⟨hy, hm⟩ := sep_padInt_two_inj (by omega) (by omega) (by omega) (by omega) h'
  exact Prod.ext (padInt_injective hy) (Prod.ext (by exact_mod_cast hm) (by exact_mod_cast hd))

theorem Time.monthKey_eq_iff {s t : Time} : s.monthKey = t.monthKey ↔
    ((civilOfDays s.day).1, (civilOfDays s.day).2.1) =
      ((civilOfDays t.day).1, (civilOfDays t.day).2.1) := by
  refine ⟨fun h => ?_, fun h => ?_⟩
  · have hs := civilOfDays_valid s.day
    have ht := civilOfDays_valid t.day
    obtain ⟨hy, hm⟩ := sep_padInt_two_inj (by omega) (by omega) (by omega) (by omega) h
    exact Prod.ext (padInt_injective hy) (by exact_mod_cast hm)
  · obtain ⟨hy, hm⟩ := Prod.mk.inj h
    rw [Time.monthKey, Time.monthKey, hy, hm]

/-- The Thursday `ISOWeek` reads is the day `7 * ((z + 3) / 7)`. -/
theorem isoWeek_eq (z : Int) :
    isoWeek z = ((civilOfDays (7 * ((z + 3) / 7))).1, dayOfYear (7 * ((z + 3) / 7)) / 7 + 1) := by
  have hthu : z + (if 4 - weekday z = 4 then -3 else 4 - weekday z) = 7 * ((z + 3) / 7) := by
    unfold weekday
    split <;> omega
  simp only [isoWeek, hthu]

/-- The week number of `ISOWeek` is in `1..53`. -/
theorem isoWeek_week_range (z : Int) : 1 ≤ (isoWeek z).2 ∧ (isoWeek z).2 ≤ 53 := by
  have := dayOfYear_range (7 * ((z + 3) / 7))
  rw [isoWeek_eq]
  omega

/-- Two days have the same ISO week exactly when their Thursdays are the same. -/
theorem isoWeek_eq_iff {z z' : Int} : isoWeek z = isoWeek z' ↔ (z + 3) / 7 = (z' + 3) / 7 := by
  refine ⟨fun h => ?_, fun h => by rw [isoWeek_eq, isoWeek_eq, h]⟩
  rw [isoWeek_eq, isoWeek_eq] at h
  obtain ⟨hy, hw⟩ := Prod.mk.inj h
  unfold dayOfYear at hw
  rw [hy] at hw
  omega

theorem Time.weekKey_eq_iff {s t : Time} : s.weekKey = t.weekKey ↔ isoWeek s.day = isoWeek t.day := by
  refine ⟨fun h => ?_, fun h => by rw [Time.weekKey, Time.weekKey, h]⟩
  have hs := isoWeek_week_range s.day
  have ht := isoWeek_week_range t.day
  obtain ⟨hy, hw⟩ := sep_padInt_two_inj (by omega) (by omega) (by omega) (by omega) h
  exact Prod.ext (padInt_injective hy) hw

/-! ## Keys of windows -/

/-- What `ApplyGroupRetention` needs of a window key: it is never the empty string its loop
starts from, and two times share it exactly when they share a number `idx` that never decreases
as time goes on. -/
structure WindowKey (key : Time → String) (idx : Time → Int) : Prop where
  ne_empty : ∀ t, key t ≠ ""
  eq_iff : ∀ s t, key s = key t ↔ idx s = idx t
  mono : ∀ s t : Time, s.unix ≤ t.unix → idx s ≤ idx t

/-- The month `12 * year + month` of a day. -/
def monthNumber (z : Int) : Int := 12 * (civilOfDays z).1 + (civilOfDays z).2.1

theorem dateKey_window : WindowKey Time.dateKey Time.day where
  ne_empty _ := sep_ne_empty _ _
  eq_iff _ _ := Time.dateKey_eq_iff.trans
    ⟨fun h => civilOfDays_injective h, fun h => by rw [h]⟩
  mono s t h := by unfold Time.day; omega

theorem monthKey_window : WindowKey Time.monthKey (fun t => monthNumber t.day) where
  ne_empty _ := sep_ne_empty _ _
  eq_iff s t := by
    have hs := civilOfDays_valid s.day
    have ht := civilOfDays_valid t.day
    rw [Time.monthKey_eq_iff, monthNumber, monthNumber, Prod.mk.injEq]
    omega
  mono s t h := by
    have := MarchDay.monthIndex_mono (a := marchDay s.day) (b := marchDay t.day)
      (by rw [MarchDay.dayNumber_marchDay, MarchDay.dayNumber_marchDay]; unfold Time.day; omega)
    exact this

theorem weekKey_window : WindowKey Time.weekKey (fun t => (t.day + 3) / 7) where
  ne_empty _ := sep_ne_empty _ _
  eq_iff _ _ := Time.weekKey_eq_iff.trans isoWeek_eq_iff
  mono s t h := by unfold Time.day; omega

end Hasteward
