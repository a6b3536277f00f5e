import Mathlib.Algebra.Group.Int
import Mathlib.Algebra.Group.Nat.Basic
import Mathlib.Data.List.DropRight
import Mathlib.Data.String.Basic

/-!
# The parts of Go's `strings` and `strconv` that the analysers read numbers with

Every number the triage analysers compare is read out of text: a timeline out of
`pg_controldata`, a checkpoint LSN of the form `hi/lo` in hexadecimal, a seqno out of
`grastate.dat`.  How the text is read decides what is compared, so the library functions doing
the reading are modelled as Go defines them rather than as their names suggest.

* `trimSpace` is `strings.TrimSpace`.  It trims Unicode white space (`unicode.IsSpace`), a larger
  set than `Char.isWhitespace`.  It is idempotent (`trimSpace_trimSpace`), which is what lets a
  value trimmed once by a parser be trimmed again by a caller without effect.
* `parseInt base s` is `strconv.ParseInt(s, base, 64)`: an optional sign, at least one digit of
  the base, no `0x` prefix and no underscore (both need base 0), and a value in the range of
  `int64`.  Anything else is an error, `none` here.  The callers in this code base never look at
  which error it was, so the model does not distinguish a syntax error from a range error.
* `wrapInt64` is two's complement wrap-around: `parseLSNValue` computes `hi*4294967296 + lo` in
  `int64`, and that product is not checked.
* `strings.Split(s, sep)` is `String.splitOn`; with a one-character separator it is the split of
  the character list (`splitOn_single`), which is what reading `hi/lo` apart needs.
-/

set_option autoImplicit false

namespace Hasteward
namespace Go

/-! ## White space and `strings.TrimSpace` -/

/-- `unicode.IsSpace`: the Latin-1 white space `\t \n \v \f \r`, space, U+0085 and U+00A0, and
above Latin-1 the `White_Space` property. -/
def isSpace (c : Char) : Bool :=
  if c.val ≤ 0xFF then
    (0x09 ≤ c.val && c.val ≤ 0x0D) || c.val == 0x20 || c.val == 0x85 || c.val == 0xA0
  else
    c.val == 0x1680 || (0x2000 ≤ c.val && c.val ≤ 0x200A) || c.val == 0x2028 ||
      c.val == 0x2029 || c.val == 0x202F || c.val == 0x205F || c.val == 0x3000

/-- `strings.TrimSpace`: the string without its leading and trailing white space. -/
def trimSpace (s : String) : String :=
  ⟨(s.data.dropWhile isSpace).rdropWhile isSpace⟩

/-- A string is trimmed when `trimSpace` leaves it alone; every value `pg_controldata` parsing
produces is (`trimSpace_trimSpace`). -/
def Trimmed (s : String) : Prop := trimSpace s = s

instance (s : String) : Decidable (Trimmed s) := inferInstanceAs (Decidable (_ = _))

theorem trimSpace_trimSpace (s : String) : trimSpace (trimSpace s) = trimSpace s := by
  change String.mk (((s.data.dropWhile isSpace).rdropWhile isSpace).dropWhile isSpace
    |>.rdropWhile isSpace) = String.mk _
  congr 1
  obtain ⟨t, ht⟩ := List.rdropWhile_prefix isSpace (s.data.dropWhile isSpace)
  generalize hR : (s.data.dropWhile isSpace).rdropWhile isSpace = R at ht ⊢
  cases R with
  | nil => simp
  | cons x xs =>
    have hx : isSpace x = false := by
      have h := List.head_dropWhile_not isSpace s.data (by rw [← ht]; simp)
      simpa [← ht] using h
    rw [List.dropWhile_cons_of_neg (by simp [hx]), ← hR, List.rdropWhile_idempotent]

theorem trimmed_trimSpace (s : String) : Trimmed (trimSpace s) := trimSpace_trimSpace s

/-! ## `strconv.ParseInt` -/

/-- The value of one character as a digit, as `strconv` reads it: `0-9`, then the letters in
either case from 10 on; `none` for anything that is not a digit of `base`. -/
def digitVal (base : Nat) (c : Char) : Option Nat :=
  let d :=
    if '0' ≤ c ∧ c ≤ '9' then c.toNat - '0'.toNat
    else if 'a' ≤ c ∧ c ≤ 'z' then c.toNat - 'a'.toNat + 10
    else if 'A' ≤ c ∧ c ≤ 'Z' then c.toNat - 'A'.toNat + 10
    else base
  if d < base then some d else none

/-- The digits after `acc`, read in `base`; `none` at the first character that is no digit. -/
def digitsFrom (base : Nat) : Nat → List Char → Option Nat
  | acc, [] => some acc
  | acc, c :: cs => (digitVal base c).bind fun d => digitsFrom base (acc * base + d) cs

/-- `strconv.ParseUint` without its range check: at least one digit, and nothing else. -/
def parseDigits (base : Nat) : List Char → Option Nat
  | [] => none
  | c :: cs => (digitVal base c).bind fun d => digitsFrom base d cs

/-- `strconv.ParseInt(s, base, 64)`: an optional sign, then `parseDigits`, then the range of
`int64`. -/
def parseInt (base : Nat) (s : String) : Option Int :=
  let (neg, ds) : Bool × List Char :=
    match s.data with
    | '+' :: r => (false, r)
    | '-' :: r => (true, r)
    | r => (false, r)
  (parseDigits base ds).bind fun n =>
    if neg then (if n ≤ 2 ^ 63 then some (-(n : Int)) else none)
    else (if n < 2 ^ 63 then some (n : Int) else none)

example : parseInt 16 "A0" = some 160 := by decide
example : parseInt 16 "0xA0" = none := by decide
example : parseInt 10 "-7" = some (-7) := by decide

/-- Every character of a number `digitsFrom` reads is a digit of the base. -/
theorem digitsFrom_digits {base acc n : Nat} :
    ∀ {cs : List Char}, digitsFrom base acc cs = some n → ∀ c ∈ cs, digitVal base c ≠ none
  | [], _ => fun _ h => absurd h (List.not_mem_nil _)
  | c :: cs, h => by
    obtain ⟨d, hd, h⟩ := Option.bind_eq_some.1 h
    intro c' hc'
    rcases List.mem_cons.1 hc' with rfl | hc'
    · simp [hd]
    · exact digitsFrom_digits h c' hc'

theorem parseDigits_digits {base n : Nat} {cs : List Char} (h : parseDigits base cs = some n) :
    ∀ c ∈ cs, digitVal base c ≠ none := by
  cases cs with
  | nil => cases h
  | cons c cs =>
    obtain ⟨d, hd, h⟩ := Option.bind_eq_some.1 h
    intro c' hc'
    rcases List.mem_cons.1 hc' with rfl | hc'
    · simp [hd]
    · exact digitsFrom_digits h c' hc'

/-- A string of digits has no sign: `parseInt` reads it as `parseDigits` does, within the range
of `int64`. -/
theorem parseInt_of_parseDigits {base n : Nat} {s : String} (h : parseDigits base s.data = some n)
    (hn : n < 2 ^ 63) : parseInt base s = some (n : Int) := by
  obtain ⟨cs⟩ := s
  cases cs with
  | nil => cases h
  | cons c cs =>
    obtain ⟨d, hd, -⟩ := Option.bind_eq_some.1 h
    have hc : c ≠ '+' ∧ c ≠ '-' := by
      constructor <;> (rintro rfl; simp [digitVal] at hd)
    unfold parseInt
    split
    next neg ds heq =>
      split at heq
      next _ _ hr => exact absurd (List.cons.inj hr).1 hc.1
      next _ _ hr => exact absurd (List.cons.inj hr).1 hc.2
      next =>
        obtain ⟨rfl, rfl⟩ := Prod.mk.inj heq
        simpa [h] using hn

/-! ## `strings.Split` on one character -/

/-- `splitOnAux` with a one-character separator, between the valid positions after `l` and
after `l ++ m`: the parts of what is left, the first of them continuing `m`. -/
theorem splitOnAux_single (c : Char) (l m r : List Char) (acc : List String) :
    String.splitOnAux ⟨l ++ m ++ r⟩ ⟨[c]⟩ ⟨String.utf8Len l⟩
        ⟨String.utf8Len l + String.utf8Len m⟩ 0 acc =
      acc.reverse ++ (List.splitOnP.go (· == c) r m.reverse).map String.mk := by
  open String in
  induction r generalizing l m acc with
  | nil =>
    rw [splitOnAux, if_pos (by rw [← utf8Len_append]; exact (atEnd_of_valid (l ++ m) []).2 rfl)]
    simpa [List.splitOnP.go] using extract_of_valid l m []
  | cons d r ih =>
    have hget : get ⟨l ++ m ++ d :: r⟩ ⟨utf8Len l + utf8Len m⟩ = d := by
      rw [← utf8Len_append]; exact get_of_valid (l ++ m) (d :: r)
    have hnext : next ⟨l ++ m ++ d :: r⟩ ⟨utf8Len l + utf8Len m⟩ =
        ⟨utf8Len l + utf8Len m + d.utf8Size⟩ := by
      rw [← utf8Len_append]; exact next_of_valid (l ++ m) d r
    have hsep : next ⟨[c]⟩ 0 = ⟨c.utf8Size⟩ := by simpa using next_of_valid [] c []
    rw [splitOnAux, if_neg (by
      rw [← utf8Len_append]; exact (atEnd_of_valid (l ++ m) (d :: r)).not.2 (List.cons_ne_nil _ _))]
    by_cases hd : d = c
    · -- the separator: the part `m` is done
      subst hd
      have hend : atEnd ⟨[d]⟩ ⟨d.utf8Size⟩ = true := by simp
      have hsub : (⟨utf8Len l + utf8Len m + d.utf8Size⟩ - ⟨d.utf8Size⟩ : Pos) =
          ⟨utf8Len l + utf8Len m⟩ := Pos.ext (Nat.add_sub_cancel _ _)
      simp only [hget, show get ⟨[d]⟩ 0 = d from rfl, beq_self_eq_true, if_true, hnext, hsep,
        hend, hsub, extract_of_valid l m (d :: r)]
      simpa [List.splitOnP.go, Nat.add_assoc] using ih (l ++ m ++ [d]) [] (⟨m⟩ :: acc)
    · -- any other character extends the part
      have hne : (d == c) = false := beq_eq_false_iff_ne.2 hd
      simp only [hget, show get ⟨[c]⟩ 0 = c from rfl, hne, if_false, Bool.false_eq_true,
        show (⟨utf8Len l + utf8Len m⟩ - 0 : Pos) = ⟨utf8Len l + utf8Len m⟩ from rfl, hnext]
      simpa [List.splitOnP.go, hne, Nat.add_assoc] using ih l (m ++ [d]) acc

/-- `strings.Split(s, sep)` with a one-character `sep` splits the characters of `s` at it. -/
theorem splitOn_single (s : String) (c : Char) :
    s.splitOn ⟨[c]⟩ = (s.data.splitOn c).map String.mk := by
  obtain ⟨cs⟩ := s
  simpa [String.splitOn, List.splitOn, List.splitOnP] using splitOnAux_single c [] [] cs []

theorem intercalate_go_data (s : String) :
    ∀ (acc : String) (l : List String),
      (String.intercalate.go acc s l).data = s.data.intercalate ((acc :: l).map String.data)
  | acc, [] => by simp [String.intercalate.go, List.intercalate]
  | acc, b :: bs => by
    rw [String.intercalate.go, intercalate_go_data s _ bs]
    cases bs <;> simp [List.intercalate, List.intersperse]

/-- `strings.Join(parts, sep)` is `String.intercalate`: the parts' characters with `sep`'s
between them. -/
theorem intercalate_data (s : String) (l : List String) :
    (s.intercalate l).data = s.data.intercalate (l.map String.data) := by
  cases l with
  | nil => rfl
  | cons a as => exact intercalate_go_data s a as

/-! ## `int64` arithmetic -/

/-- The `int64` an integer computation lands on: two's complement wrap-around. -/
def wrapInt64 (x : Int) : Int := (x + 2 ^ 63) % 2 ^ 64 - 2 ^ 63

theorem wrapInt64_of_mem {x : Int} (h1 : -2 ^ 63 ≤ x) (h2 : x < 2 ^ 63) : wrapInt64 x = x := by
  unfold wrapInt64
  rw [Int.emod_eq_of_lt (by omega) (by omega)]
  omega

end Go
end Hasteward
