import Hasteward.Go.Strings
import Mathlib.Data.List.Infix
import Mathlib.Data.Nat.Digits

/-!
# The parts of Go's `strings` and `strconv` that triage reads command output with

Triage learns the state of an instance by running a command in its pod, or in a probe pod over
its volume, and reading what the command prints: `pg_controldata`, `grastate.dat`, the wsrep
status query, `df -h`, `psql -t -A`.  The readers split the text into lines, test each line
with `strings.HasPrefix` and cut the value off with `strings.SplitN`.

* `hasPrefix`, `splitN2`, `fields`, `trimSuffix`, `toLower` and `contains` are
  `strings.HasPrefix`, `strings.SplitN(_, sep, 2)` for a one-character `sep`, `strings.Fields`,
  `strings.TrimSuffix` of one character, `strings.ToLower` on ASCII letters, and
  `strings.Contains`.
* `parseIntValue` is the *value* `strconv.ParseInt(s, base, 64)` returns, with or without an
  error: `0` after a syntax error, the nearest end of the `int64` range after a range error.
  `parseWsrepStatus` keeps the value and drops the error, so both matter.  `parseUintFrom` is
  the digit loop of `strconv.ParseUint`, which stops at the first character that is not a digit
  and at the first digit that takes the value past `2^64 - 1`, whichever comes first.
  `parseIntValue_toString` reads every `int64` back from its decimal text.
* `splitOn_intercalate_single`: `strings.Split(s, "\n")` gives back the lines `s` was joined
  from; `readValue_keyLine`: a line `key pad value` reads as the trimmed value.
* `KeyLine` is a line of a `key: value` text as a tool prints it, and `lastValue` what a reader
  that lets later lines override earlier ones should take for a key.  `KeyLine.hasPrefix_text`
  and `KeyLine.readValue_text` say how a line of a text joined by `splitOn_keyLines` is read.
-/

set_option autoImplicit false

namespace Hasteward
namespace Go

/-! ## `strings` -/

/-- `strings.HasPrefix(s, prefix)`. -/
def hasPrefix (s pre : String) : Bool := pre.data.isPrefixOf s.data

/-- `strings.SplitN(s, sep, 2)` for a one-character `sep`: the text before the first `sep` and
the text after it, or `[s]` when `s` holds none. -/
def splitN2 (s : String) (sep : Char) : List String :=
  if sep ∈ s.data then [⟨s.data.takeWhile (· != sep)⟩, ⟨(s.data.dropWhile (· != sep)).tail⟩]
  else [s]

/-- `strings.Fields`: the maximal runs of characters that are not white space. -/
def fields (s : String) : List String :=
  ((s.data.splitOnP isSpace).filter (!·.isEmpty)).map String.mk

/-- `strings.TrimSuffix(s, suffix)` for a one-character suffix. -/
def trimSuffix (s : String) (c : Char) : String :=
  if s.data.getLast? = some c then ⟨s.data.dropLast⟩ else s

/-- `strings.ToLower` on ASCII letters; other characters are left as they are. -/
def toLower (s : String) : String := ⟨s.data.map Char.toLower⟩

/-- `strings.Contains(s, substr)`. -/
def contains (s sub : String) : Bool := decide (sub.data <:+: s.data)

/-- `strings.TrimSpace(strings.SplitN(line, ":", 2)[1])`, the value of a `key: value` line.  The
readers call it only on lines that begin with a key ending in `:`, so the second part exists. -/
def readValue (line : String) : String := trimSpace ((splitN2 line ':').getD 1 "")

theorem hasPrefix_append (pre r : String) : hasPrefix (pre ++ r) pre = true := by
  simp [hasPrefix, List.isPrefixOf_iff_prefix]

theorem hasPrefix_iff {s pre : String} : hasPrefix s pre = true ↔ ∃ r, s.data = pre.data ++ r := by
  rw [hasPrefix, List.isPrefixOf_iff_prefix]
  exact ⟨fun ⟨r, h⟩ => ⟨r, h.symm⟩, fun ⟨r, h⟩ => ⟨r, h.symm⟩⟩

theorem splitN2_append {a : List Char} {sep : Char} (ha : sep ∉ a) (r : List Char) :
    splitN2 ⟨a ++ sep :: r⟩ sep = [⟨a⟩, ⟨r⟩] := by
  have hp : ∀ x ∈ a, (x != sep) = true := fun x hx => bne_iff_ne.2 (ne_of_mem_of_not_mem hx ha)
  simp [splitN2, List.takeWhile_append_of_pos hp, List.dropWhile_append_of_pos hp]

/-! ## White space around a value -/

theorem rdropWhile_append_of_all {α : Type} {p : α → Bool} (l : List α) {m : List α}
    (hm : ∀ x ∈ m, p x = true) : (l ++ m).rdropWhile p = l.rdropWhile p := by
  simp only [List.rdropWhile, List.reverse_append,
    List.dropWhile_append_of_pos (fun x hx => hm x (List.mem_reverse.1 hx))]

theorem rdropWhile_append_of_not_all {α : Type} {p : α → Bool} (l : List α) {m : List α}
    (hm : ¬∀ x ∈ m, p x = true) : (l ++ m).rdropWhile p = l ++ m.rdropWhile p := by
  have hne : (m.reverse.dropWhile p).isEmpty = false := by
    rw [Bool.eq_false_iff, ne_eq, List.isEmpty_iff, List.dropWhile_eq_nil_iff]
    simpa using hm
  simp only [List.rdropWhile, List.reverse_append, List.dropWhile_append, hne]
  simp

/-- Trimming at the start and at the end can be done in either order. -/
theorem dropWhile_rdropWhile {α : Type} (p : α → Bool) (x : List α) :
    (x.rdropWhile p).dropWhile p = (x.dropWhile p).rdropWhile p := by
  have ht : ∀ a ∈ x.takeWhile p, p a = true := fun a ha => List.mem_takeWhile_imp ha
  conv_lhs => rw [← List.takeWhile_append_dropWhile p x]
  by_cases hy : ∀ a ∈ x.dropWhile p, p a = true
  · rw [rdropWhile_append_of_all _ hy, List.rdropWhile_eq_nil_iff.2 ht, List.dropWhile_nil,
      List.rdropWhile_eq_nil_iff.2 hy]
  · -- what is left starts where `x` stops being white space
    rw [rdropWhile_append_of_not_all _ hy, List.dropWhile_append_of_pos ht]
    have hne : (x.dropWhile p).rdropWhile p ≠ [] := by
      rwa [ne_eq, List.rdropWhile_eq_nil_iff]
    obtain ⟨r, hr⟩ := List.rdropWhile_prefix (p := p) (l := x.dropWhile p)
    obtain ⟨c, cs, hc⟩ := List.exists_cons_of_ne_nil hne
    have hhead := List.head_dropWhile_not p x (fun h => hne (by simp [h]))
    rw [hc]
    apply List.dropWhile_cons_of_neg
    rw [hc] at hr
    simp only [← hr, List.cons_append, List.head_cons] at hhead
    simp [hhead]

theorem trimSpace_rdropWhile (x : List Char) : trimSpace ⟨x.rdropWhile isSpace⟩ = trimSpace ⟨x⟩ := by
  simp only [trimSpace, dropWhile_rdropWhile, List.rdropWhile_idempotent]

theorem trimSpace_spaces_append {pad : List Char} (hp : ∀ c ∈ pad, isSpace c = true)
    (v : List Char) : trimSpace ⟨pad ++ v⟩ = trimSpace ⟨v⟩ := by
  simp only [trimSpace, List.dropWhile_append_of_pos hp]

/-- A string with no white space is trimmed. -/
theorem trimmed_of_noSpace {s : String} (h : ∀ c ∈ s.data, isSpace c = false) : Trimmed s := by
  have hd : s.data.dropWhile isSpace = s.data := by
    cases hs : s.data with
    | nil => rfl
    | cons c cs => exact List.dropWhile_cons_of_neg (by simp [h c (hs ▸ List.mem_cons_self c cs)])
  have hr : s.data.rdropWhile isSpace = s.data :=
    List.rdropWhile_eq_self_iff.2 fun hl => by simp [h _ (List.getLast_mem hl)]
  show String.mk _ = s
  rw [hd, hr]

/-- Trimming a line that starts with a key and its `:` leaves them in place, its key without
white space at the start. -/
theorem trimSpace_keyLine {k : List Char} (hk₀ : ∀ c ∈ k.head?, isSpace c = false)
    (r : List Char) : trimSpace ⟨k ++ ':' :: r⟩ = ⟨k ++ ':' :: r.rdropWhile isSpace⟩ := by
  have hcolon : isSpace ':' = false := by decide
  have hdrop : (k ++ ':' :: r).dropWhile isSpace = k ++ ':' :: r := by
    cases k with
    | nil => exact List.dropWhile_cons_of_neg (by simp [hcolon])
    | cons c k => exact List.dropWhile_cons_of_neg (by simpa using hk₀ c rfl)
  have hline : k ++ ':' :: r = (k ++ [':']) ++ r := by simp
  simp only [trimSpace]
  rw [hdrop, hline]
  by_cases hs : ∀ c ∈ r, isSpace c = true
  · -- no value: the line trims to its key
    rw [rdropWhile_append_of_all _ hs, List.rdropWhile_concat_neg _ _ _ (by simp [hcolon]),
      List.rdropWhile_eq_nil_iff.2 hs]
  · rw [rdropWhile_append_of_not_all _ hs, List.append_assoc, List.singleton_append]

/-- A key ended by its first `:` is a prefix of a line only when it is the line's key. -/
theorem keyPrefix_iff {k k' : List Char} (hk : ':' ∉ k) (hk' : ':' ∉ k') (r : List Char) :
    k' ++ [':'] <+: k ++ ':' :: r ↔ k' = k := by
  induction k generalizing k' with
  | nil =>
    cases k' with
    | nil => simp
    | cons b k' =>
      simp only [List.cons_append, List.nil_append, List.cons_prefix_cons, List.cons.injEq,
        reduceCtorEq, and_false, iff_false, not_and]
      exact fun hb => absurd (hb ▸ List.mem_cons_self b k') hk'
  | cons a k ih =>
    cases k' with
    | nil =>
      simp only [List.nil_append, List.cons_append, List.cons_prefix_cons, List.cons.injEq,
        reduceCtorEq, false_and, iff_false, not_and]
      exact fun ha => absurd (ha ▸ List.mem_cons_self a k) hk
    | cons b k' =>
      simp only [List.cons_append, List.cons_prefix_cons, List.cons.injEq]
      rw [ih (fun h => hk (List.mem_cons_of_mem a h)) (fun h => hk' (List.mem_cons_of_mem b h))]

/-- A trimmed `key: value` line starts with the prefix `key':` exactly when `key'` is its key. -/
theorem hasPrefix_keyLine {k k' : List Char} (hk : ':' ∉ k) (hk₀ : ∀ c ∈ k.head?, isSpace c = false)
    (hk' : ':' ∉ k') (r : List Char) :
    hasPrefix (trimSpace ⟨k ++ ':' :: r⟩) ⟨k' ++ [':']⟩ = decide (k = k') := by
  rw [trimSpace_keyLine hk₀, Bool.eq_iff_iff, hasPrefix, List.isPrefixOf_iff_prefix,
    decide_eq_true_eq]
  exact (keyPrefix_iff hk hk' _).trans eq_comm

/-- A line `key pad value`, its key without white space at the start and with its one `:` at
the end, reads as the trimmed value, whatever the padding and the value. -/
theorem readValue_keyLine {k : List Char} (hk : ':' ∉ k) (hk₀ : ∀ c ∈ k.head?, isSpace c = false)
    {pad : List Char} (hp : ∀ c ∈ pad, isSpace c = true) (v : List Char) :
    readValue (trimSpace ⟨k ++ ':' :: (pad ++ v)⟩) = trimSpace ⟨v⟩ := by
  rw [trimSpace_keyLine hk₀, readValue, splitN2_append hk, List.getD_cons_succ,
    List.getD_cons_zero, trimSpace_rdropWhile, trimSpace_spaces_append hp]

/-- A `name<TAB>value` row, its name not white at either end and its value not white at the
end, trims to itself, or to its name alone when the value is empty. -/
theorem trimSpace_tabRow {name : List Char} (hn : name ≠ [])
    (hn₀ : ∀ c ∈ name.head?, isSpace c = false) (hn₁ : ∀ c ∈ name.getLast?, isSpace c = false)
    {v : List Char} (hv : v.rdropWhile isSpace = v) :
    trimSpace ⟨name ++ '\t' :: v⟩ = if v = [] then ⟨name⟩ else ⟨name ++ '\t' :: v⟩ := by
  obtain ⟨c, cs, rfl⟩ := List.exists_cons_of_ne_nil hn
  have hdrop : ((c :: cs) ++ '\t' :: v).dropWhile isSpace = (c :: cs) ++ '\t' :: v :=
    List.dropWhile_cons_of_neg (by simp [hn₀ c rfl])
  have hline : (c :: cs) ++ '\t' :: v = ((c :: cs) ++ ['\t']) ++ v := by simp
  simp only [trimSpace]
  rw [hdrop, hline]
  split
  next h =>
    subst h
    have hlast : (c :: cs).rdropWhile isSpace = c :: cs :=
      List.rdropWhile_eq_self_iff.2 fun hl => by simp [hn₁ _ (List.getLast?_eq_getLast _ hl)]
    rw [List.append_nil, List.rdropWhile_concat_pos isSpace (c :: cs) '\t' (by decide), hlast]
  next h =>
    have hs : ¬∀ x ∈ v, isSpace x = true := fun hs =>
      h (hv ▸ List.rdropWhile_eq_nil_iff.2 hs)
    rw [rdropWhile_append_of_not_all _ hs, hv, List.append_assoc, List.singleton_append]

/-! ## Lines -/

/-- `strings.Split` at a character the parts do not hold gives the parts back. -/
theorem splitOn_intercalate_single (c : Char) {l : List String} (hl : ∀ s ∈ l, c ∉ s.data)
    (hne : l ≠ []) : (String.intercalate ⟨[c]⟩ l).splitOn ⟨[c]⟩ = l := by
  rw [splitOn_single, intercalate_data,
    List.splitOn_intercalate _ c (by simpa using hl) (by simpa using hne), List.map_map]
  exact List.map_id l

/-! ## `key: value` texts -/

/-- A line of a `key: value` text such as `pg_controldata`'s output: a key, its `:`, padding,
and a value. -/
structure KeyLine where
  key : String
  pad : String
  value : String

/-- The line as printed. -/
def KeyLine.text (l : KeyLine) : String := l.key ++ ":" ++ l.pad ++ l.value

/-- A line the readers cut as it was printed: its key holds no `:` and does not start with white
space, its padding is white space, and no part of it holds a newline. -/
def KeyLine.Readable (l : KeyLine) : Prop :=
  ':' ∉ l.key.data ∧ (∀ c ∈ l.key.data.head?, isSpace c = false) ∧
    (∀ c ∈ l.pad.data, isSpace c = true) ∧
    '\n' ∉ l.key.data ∧ '\n' ∉ l.pad.data ∧ '\n' ∉ l.value.data

/-- The trimmed value of the last line with key `k`: what a reader takes that lets a later line
override an earlier one. -/
def lastValue (ls : List KeyLine) (k : String) : Option String :=
  (ls.reverse.find? (·.key == k)).map fun l => trimSpace l.value

instance : DecidablePred KeyLine.Readable := fun l =>
  inferInstanceAs (Decidable (':' ∉ l.key.data ∧ (∀ c ∈ l.key.data.head?, isSpace c = false) ∧
    (∀ c ∈ l.pad.data, isSpace c = true) ∧
    '\n' ∉ l.key.data ∧ '\n' ∉ l.pad.data ∧ '\n' ∉ l.value.data))

/-- A line before the rest counts only where no later line has the key. -/
theorem lastValue_cons_getD (l : KeyLine) (ls : List KeyLine) (k d : String) :
    (lastValue (l :: ls) k).getD d =
      (lastValue ls k).getD (if l.key = k then trimSpace l.value else d) := by
  rw [lastValue, lastValue, List.reverse_cons, List.find?_append]
  cases ls.reverse.find? (·.key == k) with
  | some l' => rfl
  | none => by_cases hk : l.key = k <;> simp [hk]

theorem KeyLine.text_eq (l : KeyLine) :
    l.text = ⟨l.key.data ++ ':' :: (l.pad.data ++ l.value.data)⟩ := by
  simp [KeyLine.text, String.ext_iff]

/-- A readable line starts with the prefix `k:` exactly when `k` is its key. -/
theorem KeyLine.hasPrefix_text {l : KeyLine} (hl : l.Readable) {k : String} (hk : ':' ∉ k.data) :
    hasPrefix (trimSpace l.text) ⟨k.data ++ [':']⟩ = decide (l.key = k) := by
  rw [l.text_eq, hasPrefix_keyLine hl.1 hl.2.1 hk]
  exact decide_eq_decide.2 ⟨String.ext, congrArg String.data⟩

theorem KeyLine.readValue_text {l : KeyLine} (hl : l.Readable) :
    readValue (trimSpace l.text) = trimSpace l.value := by
  rw [l.text_eq, readValue_keyLine hl.1 hl.2.1 hl.2.2.1]

/-- Splitting the printed text at its newlines gives back its lines. -/
theorem splitOn_keyLines {ls : List KeyLine} (hls : ∀ l ∈ ls, l.Readable) (hne : ls ≠ []) :
    ("\n".intercalate (ls.map KeyLine.text)).splitOn "\n" = ls.map KeyLine.text := by
  refine splitOn_intercalate_single '\n' ?_ (by simpa using hne)
  simp only [List.mem_map]
  rintro _ ⟨l, hl, rfl⟩
  obtain ⟨-, -, -, h₁, h₂, h₃⟩ := hls l hl
  simp [KeyLine.text, h₁, h₂, h₃]

/-! ## `strconv` -/

/-- How a `strconv` conversion fails: `ErrSyntax` (`invalid`), a character that is no digit, or
`ErrRange`, a value out of range. -/
inductive NumError
  | invalid
  | range
  deriving DecidableEq, Repr

/-- The digit loop of `strconv.ParseUint(s, base, 64)` once the digits read so far give `n`. -/
def parseUintFrom (base : Nat) : Nat → List Char → Except NumError Nat
  | n, [] => .ok n
  | n, c :: cs =>
    match digitVal base c with
    | none => .error .invalid
    | some d =>
      if n * base + d ≤ 2 ^ 64 - 1 then parseUintFrom base (n * base + d) cs else .error .range

/-- `strconv.ParseUint(s, base, 64)`, for the bases 2 to 36: the empty string is a syntax
error. -/
def parseUint (base : Nat) : List Char → Except NumError Nat
  | [] => .error .invalid
  | c :: cs => parseUintFrom base 0 (c :: cs)

/-- The sign `strconv.ParseInt` picks off, and the text after it. -/
def signed : List Char → Bool × List Char
  | '+' :: r => (false, r)
  | '-' :: r => (true, r)
  | r => (false, r)

/-- The value `strconv.ParseInt(s, base, 64)` returns, error or not. -/
def parseIntValue (base : Nat) (s : String) : Int :=
  let (neg, ds) := signed s.data
  match parseUint base ds with
  | .error .invalid => 0
  | .error .range => if neg then -2 ^ 63 else 2 ^ 63 - 1
  | .ok u =>
    if neg then (if u ≤ 2 ^ 63 then -(u : Int) else -2 ^ 63)
    else (if u < 2 ^ 63 then (u : Int) else 2 ^ 63 - 1)

example : parseIntValue 10 "-12" = -12 := by decide
example : parseIntValue 10 "12x" = 0 := by decide
example : parseIntValue 10 "99999999999999999999x" = 2 ^ 63 - 1 := by decide

theorem digitVal_digitChar : ∀ d, d < 10 → digitVal 10 (Nat.digitChar d) = some d := by
  decide

theorem parseUintFrom_toDigitsCore (fuel n : Nat) (ds : List Char) (h : n < fuel)
    (hn : n ≤ 2 ^ 64 - 1) :
    parseUintFrom 10 0 (Nat.toDigitsCore 10 fuel n ds) = parseUintFrom 10 n ds := by
  induction fuel generalizing n ds with
  | zero => omega
  | succ fuel ih =>
    simp only [Nat.toDigitsCore]
    split
    · -- the last (most significant) digit
      rw [parseUintFrom, digitVal_digitChar _ (Nat.mod_lt _ (by decide))]
      simp only [Nat.zero_mul, Nat.zero_add, Nat.mod_eq_of_lt (show n < 10 by omega), if_pos hn]
    · rw [ih _ _ (by omega) (by omega), parseUintFrom,
        digitVal_digitChar _ (Nat.mod_lt _ (by decide))]
      simp only [Nat.div_add_mod' n 10, if_pos hn]

theorem toDigitsCore_head (fuel n : Nat) (ds : List Char) (h : n < fuel) :
    ∃ k < 10, ∃ cs, Nat.toDigitsCore 10 fuel n ds = Nat.digitChar k :: cs := by
  induction fuel generalizing n ds with
  | zero => omega
  | succ fuel ih =>
    simp only [Nat.toDigitsCore]
    split
    · exact ⟨n % 10, Nat.mod_lt _ (by decide), ds, rfl⟩
    · exact ih _ _ (by omega)

/-- `ParseUint` reads `strconv.FormatUint`'s text back. -/
theorem parseUint_toDigits {n : Nat} (hn : n ≤ 2 ^ 64 - 1) :
    parseUint 10 (Nat.toDigits 10 n) = .ok n := by
  have h : parseUintFrom 10 0 (Nat.toDigitsCore 10 (n + 1) n []) = .ok n :=
    parseUintFrom_toDigitsCore (n + 1) n [] (Nat.lt_succ_self n) hn
  obtain ⟨k, -, cs, hc⟩ := toDigitsCore_head (n + 1) n [] (Nat.lt_succ_self n)
  change parseUint 10 (Nat.toDigitsCore 10 (n + 1) n []) = _
  rw [hc] at h ⊢
  exact h

theorem signed_cons {c : Char} (h₁ : c ≠ '+') (h₂ : c ≠ '-') (cs : List Char) :
    signed (c :: cs) = (false, c :: cs) := by
  unfold signed
  split
  next _ hr => exact absurd (List.cons.inj hr).1 h₁
  next _ hr => exact absurd (List.cons.inj hr).1 h₂
  next => rfl

/-- The decimal text of a number has no sign. -/
theorem signed_toDigits (n : Nat) : signed (Nat.toDigits 10 n) = (false, Nat.toDigits 10 n) := by
  obtain ⟨k, hk, cs, hc⟩ := toDigitsCore_head (n + 1) n [] (Nat.lt_succ_self n)
  have hs : ∀ k, k < 10 → Nat.digitChar k ≠ '+' ∧ Nat.digitChar k ≠ '-' := by decide
  change signed (Nat.toDigitsCore 10 (n + 1) n []) = (false, Nat.toDigitsCore 10 (n + 1) n [])
  rw [hc, signed_cons (hs k hk).1 (hs k hk).2]

/-- `ParseInt` reads every `int64` back from its decimal text. -/
theorem parseIntValue_toString {v : Int} (h₁ : -2 ^ 63 ≤ v) (h₂ : v < 2 ^ 63) :
    parseIntValue 10 (toString v) = v := by
  cases v with
  | ofNat m =>
    have hm : m < 2 ^ 63 := by rw [Int.ofNat_eq_coe] at h₂; omega
    show parseIntValue 10 ⟨Nat.toDigits 10 m⟩ = (m : Int)
    simp only [parseIntValue, signed_toDigits, parseUint_toDigits (show m ≤ 2 ^ 64 - 1 by omega),
      if_pos hm, Bool.false_eq_true, if_false]
  | negSucc m =>
    have hm : m + 1 ≤ 2 ^ 63 := by rw [Int.negSucc_eq] at h₁; omega
    show parseIntValue 10 ⟨'-' :: Nat.toDigits 10 (m + 1)⟩ = Int.negSucc m
    simp only [parseIntValue, signed, parseUint_toDigits (show m + 1 ≤ 2 ^ 64 - 1 by omega),
      if_pos hm, if_true]
    rfl

theorem parseDigits_toDigitsCore_dec (fuel n : Nat) (ds : List Char) (h : n < fuel) :
    parseDigits 10 (Nat.toDigitsCore 10 fuel n ds) = digitsFrom 10 n ds := by
  induction fuel generalizing n ds with
  | zero => omega
  | succ fuel ih =>
    simp only [Nat.toDigitsCore]
    split
    · rw [parseDigits, digitVal_digitChar _ (Nat.mod_lt _ (by decide)), Option.some_bind,
        Nat.mod_eq_of_lt (by omega)]
    · rw [ih _ _ (by omega), digitsFrom, digitVal_digitChar _ (Nat.mod_lt _ (by decide)),
        Option.some_bind, Nat.div_add_mod']

theorem parseDigits_toDigits (n : Nat) : parseDigits 10 (Nat.toDigits 10 n) = some n :=
  parseDigits_toDigitsCore_dec (n + 1) n [] (Nat.lt_succ_self n)

/-- `fmt`'s `%d` of a number tells the number. -/
theorem toString_injective : Function.Injective (toString : Nat → String) := fun m n h => by
  have hm := parseDigits_toDigits m
  have hn := parseDigits_toDigits n
  have hd : Nat.toDigits 10 m = Nat.toDigits 10 n := congrArg String.data h
  rw [hd, hn] at hm
  exact (Option.some.inj hm).symm

/-- `strconv.ParseInt(s, 10, 64)` reads every `int64` back from its decimal text. -/
theorem parseInt_toString {v : Int} (h₁ : -2 ^ 63 ≤ v) (h₂ : v < 2 ^ 63) :
    parseInt 10 (toString v) = some v := by
  cases v with
  | ofNat m =>
    exact parseInt_of_parseDigits (parseDigits_toDigits m) (by rw [Int.ofNat_eq_coe] at h₂; omega)
  | negSucc m =>
    have hm : m + 1 ≤ 2 ^ 63 := by rw [Int.negSucc_eq] at h₁; omega
    show parseInt 10 ⟨'-' :: Nat.toDigits 10 (m + 1)⟩ = some (Int.negSucc m)
    simp only [parseInt, parseDigits_toDigits, Option.some_bind, if_pos hm, if_true]
    rfl

/-! ## `strings.ReplaceAll` -/

/-- The loop of `strings.Replace(s, old, new, -1)` for a non-empty `old`, over the characters
left to read: copy each, and where `old` starts write `new` instead and skip the rest of `old`
(`skip` characters). -/
def replaceLoop (old new : List Char) : Nat → List Char → List Char
  | _, [] => []
  | skip + 1, _ :: cs => replaceLoop old new skip cs
  | 0, c :: cs =>
    if old.isPrefixOf (c :: cs) then new ++ replaceLoop old new (old.length - 1) cs
    else c :: replaceLoop old new 0 cs

/-- `strings.ReplaceAll(s, old, new)`: every occurrence of `old`, from the left and not
overlapping, replaced by `new`; for an empty `old`, `new` before every character and at the end.
Go matches bytes; on valid UTF-8 a match of characters is the same. -/
def replaceAll (s old new : String) : String :=
  if old = "" then ⟨new.data ++ s.data.flatMap fun c => c :: new.data⟩
  else ⟨replaceLoop old.data new.data 0 s.data⟩

example : replaceAll "ababa" "aba" "X" = "Xba" := by decide

section ReplaceAll

variable {old new : List Char}

theorem replaceLoop_skip : ∀ (k : Nat) (l : List Char),
    replaceLoop old new k l = replaceLoop old new 0 (l.drop k)
  | _, [] => by cases ‹Nat› <;> rfl
  | 0, _ :: _ => rfl
  | k + 1, _ :: cs => replaceLoop_skip k cs

/-- A text without `new`'s first character that starts the result started the input: up to the
first replacement, the loop copies. -/
theorem prefix_of_prefix_replaceLoop (hn : new ≠ []) {p : List Char}
    (hp : ∀ c ∈ new.head?, c ∉ p) : ∀ l, p <+: replaceLoop old new 0 l → p <+: l
  | [], h => by rw [replaceLoop, List.prefix_nil] at h; exact h ▸ List.nil_prefix
  | c :: cs, h => by
    obtain _ | ⟨d, p'⟩ := p
    · exact List.nil_prefix
    unfold replaceLoop at h
    split at h
    · obtain ⟨n, ns, rfl⟩ := List.exists_cons_of_ne_nil hn
      obtain ⟨rfl, -⟩ := List.cons_prefix_cons.1 h
      exact (hp _ rfl (List.mem_cons_self _ _)).elim
    · obtain ⟨rfl, h'⟩ := List.cons_prefix_cons.1 h
      exact List.cons_prefix_cons.2 ⟨rfl, prefix_of_prefix_replaceLoop hn
        (fun c hc hc' => hp c hc (List.mem_cons_of_mem _ hc')) cs h'⟩

/-- A text that is not part of `new` and lacks `new`'s last character, found in `new ++ x`, is in
`x`: it cannot start inside `new`. -/
theorem infix_of_infix_append {t : List Char} (ht₀ : t ≠ []) :
    ∀ {new : List Char}, (∀ c ∈ new.getLast?, c ∉ t) → ¬t <:+: new → ∀ {x : List Char},
      t <:+: new ++ x → t <:+: x
  | [], _, _, _, h => h
  | n :: ns, hl, hi, x, h => by
    rcases List.infix_cons_iff.1 h with h | h
    · rcases List.prefix_or_prefix_of_prefix h (List.prefix_append (n :: ns) x) with h | h
      · exact absurd h.isInfix hi
      · exact (hl _ (List.getLast?_eq_getLast _ (List.cons_ne_nil n ns))
          (h.subset (List.getLast_mem _))).elim
    · cases ns with
      | nil => exact h
      | cons m ms =>
        refine infix_of_infix_append ht₀ (fun c hc => hl c ?_)
          (fun h' => hi (h'.trans (List.suffix_cons n _).isInfix)) h
        rwa [List.getLast?_cons_cons]

section Occurrences

/-! What a text `t` must be for the loop not to make new occurrences of it: not empty, without
the first and the last character of `new`, and not part of `new`. -/

variable {t : List Char} (ht₀ : t ≠ []) (hf : ∀ c ∈ new.head?, c ∉ t)
  (hl : ∀ c ∈ new.getLast?, c ∉ t) (hi : ¬t <:+: new)

include ht₀ hf hl hi

/-- Replacing by such a `new` makes no new occurrence of `t`. -/
theorem infix_of_infix_replaceLoop (hn : new ≠ []) :
    ∀ l, t <:+: replaceLoop old new 0 l → t <:+: l
  | [], h => by rwa [replaceLoop] at h
  | c :: cs, h => by
    have hcs : cs <:+: c :: cs := (List.suffix_cons c cs).isInfix
    unfold replaceLoop at h
    split at h
    · rw [replaceLoop_skip] at h
      exact (infix_of_infix_replaceLoop hn _ (infix_of_infix_append ht₀ hl hi h)).trans
        ((List.drop_suffix _ _).isInfix.trans hcs)
    · next hm =>
      rcases List.infix_cons_iff.1 h with h | h
      · refine (@prefix_of_prefix_replaceLoop old new hn t hf (c :: cs) ?_).isInfix
        rwa [replaceLoop, if_neg hm]
      · exact (infix_of_infix_replaceLoop hn cs h).trans hcs
termination_by l => l.length
decreasing_by
  all_goals simp_wf
  all_goals omega

end Occurrences

/-- When `old` is such a text for `new`, no occurrence of `old` is left. -/
theorem not_infix_replaceLoop (hn : new ≠ []) (ho₀ : old ≠ []) (hf : ∀ c ∈ new.head?, c ∉ old)
    (hl : ∀ c ∈ new.getLast?, c ∉ old) (hi : ¬old <:+: new) :
    ∀ l, ¬old <:+: replaceLoop old new 0 l
  | [], h => by rw [replaceLoop, List.infix_nil] at h; exact ho₀ h
  | c :: cs, h => by
    unfold replaceLoop at h
    split at h
    · rw [replaceLoop_skip] at h
      exact not_infix_replaceLoop hn ho₀ hf hl hi _ (infix_of_infix_append ho₀ hl hi h)
    · next hm =>
      rcases List.infix_cons_iff.1 h with h | h
      · refine hm (List.isPrefixOf_iff_prefix.2
          (@prefix_of_prefix_replaceLoop old new hn old hf (c :: cs) ?_))
        rwa [replaceLoop, if_neg hm]
      · exact not_infix_replaceLoop hn ho₀ hf hl hi cs h
termination_by l => l.length
decreasing_by
  all_goals simp_wf
  all_goals omega

end ReplaceAll

end Go
end Hasteward
