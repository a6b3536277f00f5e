import Mathlib.Data.List.Basic

/-!
# The CNPG fence list and its JSON encoding

CNPG stops managing the instances listed in the cluster annotation `cnpg.io/fencedInstances`, a
JSON array of pod names.  The engine reads it with a hand-written scanner, `parseFencedInstances`
(through `parseJSONStringArray`), writes it with `json.Marshal`, and changes it by
read-modify-write: `fenceInstance` appends a pod that is not listed yet, `unfenceInstance`
removes one and drops the annotation when the list becomes empty.

* `jsonEscape` is `encoding/json`'s string encoder, HTML escaping included; `marshalStrings` is
  `json.Marshal` of a `[]string`.
* `parseFencedInstances_marshalStrings`: the scanner reads back every list of pod names the
  encoder writes.  It does not read escapes, so the law needs names without the characters the
  encoder escapes; pod names (`PodName`: lowercase letters, digits, `-` and `.`) have none.
* `fence_unfence`: fencing and unfencing act on the decoded list as adding and removing an
  element of a set, whatever text the annotation held before.

The merge patch carries the new text as a `%q` string, which the API server decodes back to the
text: for the printable ASCII text the encoder writes for pod names the two are inverse, and the
model takes a patch to set the annotation to the text itself.
-/

set_option autoImplicit false

namespace Hasteward
namespace Cnpg

/-! ## `json.Marshal` of a `[]string` -/

/-- `htmlSafeSet`: the ASCII characters `encoding/json` writes as they are. -/
def htmlSafe (c : Char) : Bool :=
  0x20 ≤ c.toNat && c.toNat < 0x80 && c != '"' && c != '\\' && c != '<' && c != '>' && c != '&'

/-- One character of a string as `json.Marshal` writes it: `appendString` with HTML escaping.
A Lean string is valid Unicode, so the branch for invalid UTF-8 does not arise. -/
def jsonEscape (c : Char) : List Char :=
  if c.toNat < 0x80 then
    if htmlSafe c then [c]
    else if c = '\\' ∨ c = '"' then ['\\', c]
    else if c = '\x08' then ['\\', 'b']
    else if c = '\x0c' then ['\\', 'f']
    else if c = '\n' then ['\\', 'n']
    else if c = '\r' then ['\\', 'r']
    else if c = '\t' then ['\\', 't']
    else ['\\', 'u', '0', '0', Nat.digitChar (c.toNat / 16), Nat.digitChar (c.toNat % 16)]
  -- U+2028 LINE SEPARATOR and U+2029 PARAGRAPH SEPARATOR
  else if c.toNat = 0x2028 ∨ c.toNat = 0x2029 then
    ['\\', 'u', '2', '0', '2', Nat.digitChar (c.toNat % 16)]
  else [c]

/-- A string as `json.Marshal` writes it, in quotes. -/
def jsonString (s : String) : List Char := '"' :: s.data.flatMap jsonEscape ++ ['"']

/-- The elements of an array, separated by commas. -/
def marshalElems : List String → List Char
  | [] => []
  | [s] => jsonString s
  | s :: t :: l => jsonString s ++ ',' :: marshalElems (t :: l)

/-- `json.Marshal` of a non-nil `[]string` (every slice the engine marshals has an element). -/
def marshalStrings (l : List String) : String := ⟨'[' :: marshalElems l ++ [']']⟩

/-! ## `parseFencedInstances` -/

/-- The loop of `parseJSONStringArray`: a `"` outside a string opens one, a `"` inside closes
it, and every other character inside is kept.  The Go loop reads bytes; a `"` byte is never part
of a longer UTF-8 sequence, so reading characters cuts the text at the same places. -/
def scanStrings : List Char → Bool → List Char → List String → List String
  | [], _, _, result => result
  | c :: cs, inQuote, current, result =>
    if c = '"' ∧ inQuote = false then scanStrings cs true [] result
    else if c = '"' ∧ inQuote = true then scanStrings cs false current (result ++ [⟨current⟩])
    else if inQuote = true then scanStrings cs inQuote (current ++ [c]) result
    else scanStrings cs inQuote current result

/-- `parseJSONStringArray`. -/
def parseJSONStringArray (s : String) : List String := scanStrings s.data false [] []

/-- `parseFencedInstances`, of the annotation's value (`none` when it is absent). -/
def parseFencedInstances (ann : Option String) : List String :=
  match ann with
  | none => []
  | some s => if s = "" ∨ s = "[]" then [] else parseJSONStringArray s

/-! ## The round trip -/

/-- The characters of a pod name. -/
def podChars : List Char := "abcdefghijklmnopqrstuvwxyz0123456789-.".data

/-- A pod name: a DNS-1123 name, written in lowercase letters, digits, `-` and `.`. -/
def PodName (s : String) : Prop := ∀ c ∈ s.data, c ∈ podChars

instance (s : String) : Decidable (PodName s) := inferInstanceAs (Decidable (∀ c ∈ s.data, _))

theorem podChar_plain : ∀ c ∈ podChars, jsonEscape c = [c] ∧ c ≠ '"' := by decide

theorem flatMap_jsonEscape {cs : List Char} (h : ∀ c ∈ cs, c ∈ podChars) :
    cs.flatMap jsonEscape = cs := by
  induction cs with
  | nil => rfl
  | cons c cs ih =>
    rw [List.flatMap_cons, (podChar_plain c (h c (List.mem_cons_self _ _))).1,
      ih fun c hc => h c (List.mem_cons_of_mem _ hc)]
    rfl

/-- Inside a string, the scanner keeps every character up to the closing quote. -/
theorem scanStrings_quoted (rest : List Char) : ∀ (cs current : List Char) (result : List String),
    '"' ∉ cs → scanStrings (cs ++ '"' :: rest) true current result =
      scanStrings rest false (current ++ cs) (result ++ [⟨current ++ cs⟩])
  | [], current, result, _ => by simp [scanStrings]
  | c :: cs, current, result, h => by
    rw [List.mem_cons, not_or] at h
    have hc : c ≠ '"' := Ne.symm h.1
    rw [List.cons_append, scanStrings, if_neg (by simp [hc]), if_neg (by simp [hc]), if_pos rfl,
      scanStrings_quoted rest cs _ result h.2, List.append_assoc, List.singleton_append]

theorem scanStrings_skip {c : Char} (hc : c ≠ '"') (cs current : List Char)
    (result : List String) :
    scanStrings (c :: cs) false current result = scanStrings cs false current result := by
  rw [scanStrings, if_neg (by simp [hc]), if_neg (by simp [hc]), if_neg (by simp)]

/-- A pod name in quotes is scanned as itself. -/
theorem scanStrings_jsonString {s : String} (hs : PodName s) (rest current : List Char)
    (result : List String) :
    scanStrings (jsonString s ++ rest) false current result =
      scanStrings rest false s.data (result ++ [s]) := by
  rw [jsonString, flatMap_jsonEscape hs, List.cons_append, List.cons_append, scanStrings.eq_2,
    if_pos ⟨rfl, rfl⟩,
    List.append_assoc, List.singleton_append,
    scanStrings_quoted rest s.data [] result fun h => (podChar_plain _ (hs _ h)).2 rfl,
    List.nil_append]

theorem scanStrings_marshalElems : ∀ (l : List String), (∀ s ∈ l, PodName s) →
    ∀ (current : List Char) (result : List String),
      scanStrings (marshalElems l ++ [']']) false current result = result ++ l
  | [], _, current, result => by
    rw [marshalElems, List.nil_append, scanStrings_skip (by decide), List.append_nil]
    rfl
  | [s], h, current, result => by
    rw [marshalElems, scanStrings_jsonString (h s (List.mem_singleton_self _)),
      scanStrings_skip (by decide)]
    rfl
  | s :: t :: l, h, current, result => by
    rw [marshalElems, List.append_assoc, scanStrings_jsonString (h s (List.mem_cons_self _ _)),
      List.cons_append, scanStrings_skip (by decide),
      scanStrings_marshalElems (t :: l) (fun s hs => h s (List.mem_cons_of_mem _ hs)),
      List.append_assoc, List.singleton_append]

theorem marshalElems_eq_nil {l : List String} (h : marshalElems l = []) : l = [] := by
  match l, h with
  | [], _ => rfl
  | [_], h => simp [marshalElems, jsonString] at h
  | _ :: _ :: _, h => simp [marshalElems, jsonString] at h

/-- **The scanner reads back what `json.Marshal` writes**, for every list of pod names. -/
theorem parseFencedInstances_marshalStrings {l : List String} (h : ∀ s ∈ l, PodName s) :
    parseFencedInstances (some (marshalStrings l)) = l := by
  have hscan : parseJSONStringArray (marshalStrings l) = l := by
    rw [parseJSONStringArray, marshalStrings, List.cons_append, scanStrings_skip (by decide),
      scanStrings_marshalElems l h, List.nil_append]
  rw [parseFencedInstances]
  split
  · next hs =>
    rcases hs with hs | hs
    · exact absurd (congrArg String.length hs) (by simp [marshalStrings, String.length])
    · have := congrArg (fun s => s.data.length) hs
      simp only [marshalStrings, List.length_cons, List.length_append, List.length_singleton] at this
      exact (marshalElems_eq_nil (List.eq_nil_of_length_eq_zero (by simpa using this))).symm
  · exact hscan

/-! ## Fencing and unfencing -/

/-- The annotation `fenceInstance` patches in, given the annotation it read; `none` when the
pod is already fenced and no patch is sent. -/
def fencePatch (ann : Option String) (pod : String) : Option (Option String) :=
  let current := parseFencedInstances ann
  if pod ∈ current then none else some (some (marshalStrings (current ++ [pod])))

/-- The annotation `unfenceInstance` patches in, given the annotation it read: the list without
the pod, or `null`, which removes the annotation, when no pod is left. -/
def unfencePatch (ann : Option String) (pod : String) : Option String :=
  let remaining := (parseFencedInstances ann).filter (· != pod)
  if remaining.length = 0 then none else some (marshalStrings remaining)

/-- The annotation after `fenceInstance`. -/
def fenced (ann : Option String) (pod : String) : Option String := (fencePatch ann pod).getD ann

theorem parseFencedInstances_fenced {ann : Option String} {pod : String}
    (hL : ∀ s ∈ parseFencedInstances ann, PodName s) (hp : PodName pod) :
    parseFencedInstances (fenced ann pod) =
      if pod ∈ parseFencedInstances ann then parseFencedInstances ann
      else parseFencedInstances ann ++ [pod] := by
  dsimp only [fenced, fencePatch]
  split
  · rfl
  · refine parseFencedInstances_marshalStrings fun s hs => ?_
    rcases List.mem_append.1 hs with hs | hs
    · exact hL s hs
    · rwa [List.mem_singleton.1 hs]

theorem parseFencedInstances_unfencePatch {ann : Option String} {pod : String}
    (hL : ∀ s ∈ parseFencedInstances ann, PodName s) :
    parseFencedInstances (unfencePatch ann pod) = (parseFencedInstances ann).filter (· != pod) := by
  dsimp only [unfencePatch]
  split
  · next h => exact (List.eq_nil_of_length_eq_zero h).symm
  · exact parseFencedInstances_marshalStrings fun s hs => hL s (List.mem_filter.1 hs).1

/-- **Fence list updates have set semantics.**  For every list of pod names the encoder writes,
the scanner reads it back.  For every annotation holding pod names and every pod: fencing gives
an annotation that reads as the list with the pod added if it was not there; unfencing gives one
that reads as the list without the pod, and removes the annotation when that is empty; and
unfencing after fencing a pod that was not listed gives back the list. -/
theorem fence_unfence :
    (∀ l : List String, (∀ s ∈ l, PodName s) → parseFencedInstances (some (marshalStrings l)) = l) ∧
    ∀ (ann : Option String) (pod : String), (∀ s ∈ parseFencedInstances ann, PodName s) →
      PodName pod →
      let l := parseFencedInstances ann
      parseFencedInstances (fenced ann pod) = (if pod ∈ l then l else l ++ [pod]) ∧
      parseFencedInstances (unfencePatch ann pod) = l.filter (· != pod) ∧
      (unfencePatch ann pod = none ↔ l.filter (· != pod) = []) ∧
      (pod ∉ l → parseFencedInstances (unfencePatch (fenced ann pod) pod) = l) := by
  refine ⟨fun l h => parseFencedInstances_marshalStrings h, fun ann pod hL hp => ?_⟩
  have hf := parseFencedInstances_fenced hL hp
  refine ⟨hf, parseFencedInstances_unfencePatch hL, ?_, fun hnot => ?_⟩
  · dsimp only [unfencePatch]
    split
    · next h => exact ⟨fun _ => List.eq_nil_of_length_eq_zero h, fun _ => rfl⟩
    · next h => exact ⟨fun h' => Option.noConfusion h', fun h' => absurd (List.length_eq_zero.2 h') h⟩
  · have hL' : ∀ s ∈ parseFencedInstances (fenced ann pod), PodName s := by
      rw [hf, if_neg hnot]
      intro s hs
      rcases List.mem_append.1 hs with hs | hs
      · exact hL s hs
      · rwa [List.mem_singleton.1 hs]
    rw [parseFencedInstances_unfencePatch hL', hf, if_neg hnot, List.filter_append,
      List.filter_eq_self.2 fun s hs => by rw [bne_iff_ne]; rintro rfl; exact hnot hs]
    simp

/-- Fencing `c-2` beside `c-1` and unfencing it gives back `["c-1"]`. -/
theorem fence_unfence_twoPods :
    (∀ s ∈ parseFencedInstances (some "[\"c-1\"]"), PodName s) ∧ PodName "c-2" ∧
      parseFencedInstances (unfencePatch (fenced (some "[\"c-1\"]") "c-2") "c-2") = ["c-1"] := by
  have hL : ∀ s ∈ parseFencedInstances (some "[\"c-1\"]"), PodName s := by decide
  have hp : PodName "c-2" := by decide
  exact ⟨hL, hp, ((fence_unfence.2 _ _ hL hp).2.2.2 (by decide)).trans (by decide)⟩

end Cnpg
end Hasteward
