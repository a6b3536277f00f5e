import Hasteward.Cnpg.Triage
import Mathlib.Data.Prod.Lex
import Mathlib.Data.Nat.Digits

/-!
# `parseLSNValue` on PostgreSQL's text form of an LSN

PostgreSQL prints a log sequence number, a 64-bit position in the write-ahead log, as two
upper-case hexadecimal numbers `%X/%X`: its high and its low 32 bits (`formatLSN`).
`parseLSNValue` (`engine/cnpg/triage.go` 905-919) reads the two halves apart with
`strings.Split(lsn, "/")` and `strconv.ParseInt(_, 16, 64)` and returns `hi*4294967296 + lo`, an
`int64` product that nothing checks.

* `parseLSNValue_formatLSN`: on every LSN the reading is exact up to the `int64` wrap — the text
  splits into its two halves (`splitOn_formatLSN`) and each half reads back as its number
  (`parseDigits_hexUpper`).
* `parseLSNValue_formatLSN_order`: the value is the LSN itself exactly when the high half is below
  `2^31`, and comparing values agrees with the order of LSNs for every pair exactly when both high
  halves are on the same side of `2^31`.  `parseLSNValue_formatLSN_order_wraps` is the first pair
  where it does not: `7FFFFFFF/0` comes before `80000000/0`, whose value is negative.
-/

set_option autoImplicit false

namespace Hasteward
namespace Cnpg

open Go

/-! ## The text form -/

/-- `%X`: the number in upper-case hexadecimal, with no leading zeros. -/
def hexUpper (n : Nat) : String := ⟨(Nat.toDigits 16 n).map Char.toUpper⟩

/-- PostgreSQL's text form of an LSN (`LSN_FORMAT`): `%X/%X` of its high and low 32 bits. -/
def formatLSN (hi lo : Nat) : String := hexUpper hi ++ "/" ++ hexUpper lo

example : formatLSN 0x16 0xB374D848 = "16/B374D848" := by decide

/-! ## Reading it back -/

theorem digitVal_hexChar : ∀ d, d < 16 → digitVal 16 (Nat.digitChar d).toUpper = some d := by
  decide

theorem parseDigits_toDigitsCore (fuel n : Nat) (ds : List Char) (h : n < fuel) :
    parseDigits 16 ((Nat.toDigitsCore 16 fuel n ds).map Char.toUpper) =
      digitsFrom 16 n (ds.map Char.toUpper) := by
  induction fuel generalizing n ds with
  | zero => omega
  | succ fuel ih =>
    simp only [Nat.toDigitsCore]
    split
    · -- the last (most significant) digit
      rw [List.map_cons, parseDigits, digitVal_hexChar _ (Nat.mod_lt _ (by decide)),
        Option.some_bind, Nat.mod_eq_of_lt (by omega)]
    · rw [ih _ _ (by omega), List.map_cons, digitsFrom,
        digitVal_hexChar _ (Nat.mod_lt _ (by decide)), Option.some_bind, Nat.div_add_mod']

/-- `ParseInt(_, 16, _)` reads `%X` back as its number. -/
theorem parseDigits_hexUpper (n : Nat) : parseDigits 16 (hexUpper n).data = some n :=
  parseDigits_toDigitsCore (n + 1) n [] (Nat.lt_succ_self n)

theorem slash_not_mem_hexUpper (n : Nat) : '/' ∉ (hexUpper n).data := fun h =>
  parseDigits_digits (parseDigits_hexUpper n) '/' h rfl

theorem splitOn_formatLSN (hi lo : Nat) :
    (formatLSN hi lo).splitOn "/" = [hexUpper hi, hexUpper lo] := by
  have hdata : (formatLSN hi lo).data =
      ['/'].intercalate [(hexUpper hi).data, (hexUpper lo).data] := by
    simp [formatLSN, List.intercalate]
  rw [show "/" = (⟨['/']⟩ : String) from rfl, splitOn_single, hdata,
    List.splitOn_intercalate _ '/' (by simp [slash_not_mem_hexUpper]) (by simp)]
  rfl

/-- The value `parseLSNValue` reads from PostgreSQL's text form: `hi * 2^32 + lo` in `int64`. -/
theorem parseLSNValue_formatLSN {hi lo : Nat} (hhi : hi < 2 ^ 32) (hlo : lo < 2 ^ 32) :
    parseLSNValue (formatLSN hi lo) = wrapInt64 (hi * 4294967296 + lo) := by
  have hs : '/' ∈ (formatLSN hi lo).data := by simp [formatLSN]
  have hne : ¬(formatLSN hi lo = "" ∨ formatLSN hi lo = "unknown") := by
    rintro (h | h) <;> rw [h] at hs <;> exact absurd hs (by decide)
  rw [parseLSNValue, if_neg hne, splitOn_formatLSN]
  simp only [parseInt_of_parseDigits (parseDigits_hexUpper hi) (by omega),
    parseInt_of_parseDigits (parseDigits_hexUpper lo) (by omega)]

/-! ## Order -/

/-- On LSNs, `int64` wraps exactly when the high half has its top bit set. -/
theorem wrapInt64_lsn {hi lo : Nat} (hhi : hi < 2 ^ 32) (hlo : lo < 2 ^ 32) :
    wrapInt64 (hi * 4294967296 + lo) =
      if hi < 2 ^ 31 then (hi * 4294967296 + lo : Int) else hi * 4294967296 + lo - 2 ^ 64 := by
  unfold wrapInt64
  split_ifs <;> omega

/-- Below `2^31` in the high half, the value read is the LSN. -/
theorem parseLSNValue_formatLSN_of_lt {hi lo : Nat} (hhi : hi < 2 ^ 31) (hlo : lo < 2 ^ 32) :
    parseLSNValue (formatLSN hi lo) = hi * 4294967296 + lo := by
  rw [parseLSNValue_formatLSN (by omega) hlo, wrapInt64_lsn (by omega) hlo, if_pos hhi]

/-- **`parseLSNValue` against the order of LSNs.**  The value read is the LSN exactly when its
high half is below `2^31`; and for a pair of LSNs, comparing the values agrees with the
lexicographic order of `(hi, lo)` exactly when both high halves are on the same side of `2^31`. -/
theorem parseLSNValue_formatLSN_order {hi₁ lo₁ hi₂ lo₂ : Nat} (h₁ : hi₁ < 2 ^ 32)
    (l₁ : lo₁ < 2 ^ 32) (h₂ : hi₂ < 2 ^ 32) (l₂ : lo₂ < 2 ^ 32) :
    (parseLSNValue (formatLSN hi₁ lo₁) = hi₁ * 4294967296 + lo₁ ↔ hi₁ < 2 ^ 31) ∧
    ((toLex (hi₁, lo₁) < toLex (hi₂, lo₂) ↔
        parseLSNValue (formatLSN hi₁ lo₁) < parseLSNValue (formatLSN hi₂ lo₂)) ↔
      (hi₁ < 2 ^ 31 ↔ hi₂ < 2 ^ 31)) := by
  rw [parseLSNValue_formatLSN h₁ l₁, parseLSNValue_formatLSN h₂ l₂, wrapInt64_lsn h₁ l₁,
    wrapInt64_lsn h₂ l₂, Prod.Lex.lt_iff]
  dsimp only
  split_ifs <;> omega

/-- `7FFFFFFF/0` comes before `80000000/0`, and `parseLSNValue` does not put it before. -/
theorem parseLSNValue_formatLSN_order_wraps :
    formatLSN (2 ^ 31 - 1) 0 = "7FFFFFFF/0" ∧ formatLSN (2 ^ 31) 0 = "80000000/0" ∧
      toLex (2 ^ 31 - 1, 0) < toLex (2 ^ 31, 0) ∧
      ¬parseLSNValue (formatLSN (2 ^ 31 - 1) 0) < parseLSNValue (formatLSN (2 ^ 31) 0) := by
  have hlex : toLex ((2 : Nat) ^ 31 - 1, (0 : Nat)) < toLex (2 ^ 31, 0) :=
    (Prod.Lex.lt_iff _ _).2 (.inl (by decide))
  have h := (@parseLSNValue_formatLSN_order (2 ^ 31 - 1) 0 (2 ^ 31) 0
    (by decide) (by decide) (by decide) (by decide)).2
  exact ⟨by decide, by decide, hlex, fun hlt =>
    absurd ((h.1 ⟨fun _ => hlt, fun _ => hlex⟩).1 (by decide)) (by decide)⟩

end Cnpg
end Hasteward
