import Hasteward.Go.Text

/-!
# Redacting secrets from the logs

`common/logging.go` wraps the `slog` handler in a `sanitizingHandler`.  `RegisterSecret` adds a
value (the database's root password and its base64 form, restic's password) to a list;
`Handle` hands the inner handler a copy of each record in which `sanitize` has replaced every
registered secret, one after the other, by `[REDACTED]`: in the message, and in every string
attribute, at any depth of its groups (`sanitizeAttr`).  The printf-style `InfoLog` and its
kin format everything into the message.

* `sanitize_clean`: after `sanitize`, no secret without a bracket that is not part of
  `[REDACTED]` occurs in the text, whatever the text, the order of the secrets, and however they
  overlap one another; base64 texts have no brackets.  The condition is needed: a secret that is
  part of `[REDACTED]` (`RED`) is in every redacted text, and one that begins with its end
  (`D]x`) can be made by a later replacement.
* `handle_redacts`: so, after any sequence of `RegisterSecret` calls with such secrets, the
  record `Handle` hands on holds none of them in its message or in any of its string attributes.

What `Handle` leaves as it is: an attribute of any other kind, such as the errors the
schedulers log with `log.Error("Backup failed", "error", err)`, which the inner handler prints
with `err.Error()`; and the attributes given to `WithAttrs` (`slog.With`), which the inner
handler gets without `sanitize`.
-/

set_option autoImplicit false

namespace Hasteward
namespace Logging

open Go

/-! ## `RegisterSecret` and `sanitize` -/

/-- `RegisterSecret`: the secrets once `value` is registered; the empty string is not. -/
def registerSecret (secrets : List String) (value : String) : List String :=
  if value = "" then secrets else secrets ++ [value]

/-- `sanitize`: each secret in turn replaced by `[REDACTED]`. -/
def sanitize (secrets : List String) (msg : String) : String :=
  secrets.foldl (fun msg s => replaceAll msg s "[REDACTED]") msg

/-- A secret `sanitize` can take out: not empty, without a bracket, and not part of
`[REDACTED]`. -/
def Redactable (s : String) : Prop :=
  s ≠ "" ∧ '[' ∉ s.data ∧ ']' ∉ s.data ∧ ¬s.data <:+: "[REDACTED]".data

instance : DecidablePred Redactable := fun s =>
  inferInstanceAs (Decidable (s ≠ "" ∧ '[' ∉ s.data ∧ ']' ∉ s.data ∧ ¬s.data <:+: "[REDACTED]".data))

/-- A redactable secret cannot overlap a `[REDACTED]` the loop writes. -/
theorem Redactable.occurrence {s : String} (h : Redactable s) :
    s.data ≠ [] ∧ (∀ c ∈ "[REDACTED]".data.head?, c ∉ s.data) ∧
      (∀ c ∈ "[REDACTED]".data.getLast?, c ∉ s.data) ∧ ¬s.data <:+: "[REDACTED]".data :=
  ⟨mt String.ext h.1, fun _ hc => by cases hc; exact h.2.1, fun _ hc => by cases hc; exact h.2.2.1,
    h.2.2.2⟩

theorem mem_foldl_registerSecret {v : String} :
    ∀ (values secrets : List String), v ∈ values.foldl registerSecret secrets →
      v ∈ secrets ∨ (v ∈ values ∧ v ≠ "")
  | [], _, h => .inl h
  | value :: values, secrets, h => by
    rcases mem_foldl_registerSecret values _ h with h | h
    · unfold registerSecret at h
      split at h
      · exact .inl h
      · rcases List.mem_append.1 h with h | h
        · exact .inl h
        · obtain rfl := List.mem_singleton.1 h
          exact .inr ⟨List.mem_cons_self _ _, ‹_›⟩
    · exact .inr ⟨List.mem_cons_of_mem _ h.1, h.2⟩

/-- One replacement takes out its secret and puts back none of the others. -/
theorem replaceAll_clean {done : List String} {msg s : String} (hs : Redactable s)
    (hd : ∀ t ∈ done, Redactable t) (hmsg : ∀ t ∈ done, ¬t.data <:+: msg.data) :
    ∀ t ∈ done ++ [s], ¬t.data <:+: (replaceAll msg s "[REDACTED]").data := by
  have hr : (replaceAll msg s "[REDACTED]").data =
      replaceLoop s.data "[REDACTED]".data 0 msg.data := by
    rw [replaceAll, if_neg hs.1]
  intro t ht
  rw [hr]
  rcases List.mem_append.1 ht with ht | ht
  · obtain ⟨h₀, hf, hl, hi⟩ := (hd t ht).occurrence
    exact fun h => hmsg t ht (infix_of_infix_replaceLoop h₀ hf hl hi (by decide) _ h)
  · obtain rfl := List.mem_singleton.1 ht
    obtain ⟨h₀, hf, hl, hi⟩ := hs.occurrence
    exact not_infix_replaceLoop (by decide) h₀ hf hl hi _

/-- **`sanitize` takes out every secret.**  When no secret has a bracket or is part of
`[REDACTED]`, none of them occurs in the sanitized text, whatever the text and the order of the
secrets. -/
theorem sanitize_clean {secrets : List String} (hs : ∀ s ∈ secrets, Redactable s) (msg : String) :
    ∀ s ∈ secrets, ¬s.data <:+: (sanitize secrets msg).data := by
  -- the secrets replaced so far are out of the text, and stay out
  have key : ∀ (rest done : List String) (msg : String), (∀ t ∈ done ++ rest, Redactable t) →
      (∀ t ∈ done, ¬t.data <:+: msg.data) → ∀ t ∈ done ++ rest,
        ¬t.data <:+: (rest.foldl (fun msg s => replaceAll msg s "[REDACTED]") msg).data := by
    intro rest
    induction rest with
    | nil => intro done msg _ hmsg; simpa using hmsg
    | cons s rest ih =>
      intro done msg hr hmsg
      have hr' : ∀ t ∈ (done ++ [s]) ++ rest, Redactable t := by simpa using hr
      simpa using ih (done ++ [s]) _ hr' (replaceAll_clean (hr s (by simp))
        (fun t ht => hr t (List.mem_append_left _ ht)) hmsg)
  exact key secrets [] msg (by simpa using hs) (by simp)

/-! ## `sanitizingHandler` -/

/-- An `slog.Value`: a string, a group of attributes, or a value of another kind, with the text
the inner handler prints for it. -/
inductive Value
  | string (s : String)
  | group (attrs : List (String × Value))
  | other (text : String)

mutual
/-- `sanitizeAttr`, on the value. -/
def sanitizeValue (secrets : List String) : Value → Value
  | .string s => .string (sanitize secrets s)
  | .group attrs => .group (sanitizeAttrs secrets attrs)
  | .other text => .other text

/-- `sanitizeAttr` of each attribute of a group. -/
def sanitizeAttrs (secrets : List String) : List (String × Value) → List (String × Value)
  | [] => []
  | (k, v) :: attrs => (k, sanitizeValue secrets v) :: sanitizeAttrs secrets attrs
end

/-- An `slog.Record`, as far as `Handle` reads it. -/
structure Record where
  message : String
  attrs : List (String × Value)

/-- `sanitizingHandler.Handle`: the record it hands the inner handler. -/
def handle (secrets : List String) (r : Record) : Record :=
  ⟨sanitize secrets r.message, sanitizeAttrs secrets r.attrs⟩

mutual
/-- The strings of a value, at any depth of its groups. -/
def Value.strings : Value → List String
  | .string s => [s]
  | .group attrs => attrsStrings attrs
  | .other _ => []

/-- The strings of the attributes, at any depth of their groups. -/
def attrsStrings : List (String × Value) → List String
  | [] => []
  | (_, v) :: attrs => v.strings ++ attrsStrings attrs
end

mutual
theorem strings_sanitizeValue (secrets : List String) :
    ∀ v : Value, (sanitizeValue secrets v).strings = v.strings.map (sanitize secrets)
  | .string _ => rfl
  | .group attrs => strings_sanitizeAttrs secrets attrs
  | .other _ => rfl

theorem strings_sanitizeAttrs (secrets : List String) :
    ∀ attrs, attrsStrings (sanitizeAttrs secrets attrs) = (attrsStrings attrs).map (sanitize secrets)
  | [] => rfl
  | (_, v) :: attrs => by
    rw [sanitizeAttrs, attrsStrings, attrsStrings, strings_sanitizeValue secrets v,
      strings_sanitizeAttrs secrets attrs, List.map_append]
end

/-- **Redacted records.**  After any sequence of `RegisterSecret` calls with values that have no
bracket and are not part of `[REDACTED]`, the record `Handle` hands on holds none of the secrets:
not in its message, and not in any string attribute at any depth of its groups. -/
theorem handle_redacts {values : List String}
    (hv : ∀ v ∈ values, '[' ∉ v.data ∧ ']' ∉ v.data ∧ ¬v.data <:+: "[REDACTED]".data)
    (r : Record) :
    ∀ v ∈ values.foldl registerSecret [],
      ¬v.data <:+: (handle (values.foldl registerSecret []) r).message.data ∧
        ∀ s ∈ attrsStrings (handle (values.foldl registerSecret []) r).attrs, ¬v.data <:+: s.data := by
  have hs : ∀ v ∈ values.foldl registerSecret [], Redactable v := fun v h => by
    rcases mem_foldl_registerSecret values [] h with h | ⟨hm, hne⟩
    · cases h
    · exact ⟨hne, hv v hm⟩
  intro v hm
  refine ⟨sanitize_clean hs _ v hm, fun s h => ?_⟩
  rw [handle, strings_sanitizeAttrs, List.mem_map] at h
  obtain ⟨s₀, -, rfl⟩ := h
  exact sanitize_clean hs s₀ v hm

/-- An error logged as an attribute is handed on as it is. -/
example : handle ["hunter2"] ⟨"Backup failed", [("error", .other "exit 1: mysql -phunter2")]⟩ =
    ⟨"Backup failed", [("error", .other "exit 1: mysql -phunter2")]⟩ := rfl

theorem handle_redacts_password :
    (∀ v ∈ ["hunter2", "aHVudGVyMg=="],
        '[' ∉ v.data ∧ ']' ∉ v.data ∧ ¬v.data <:+: "[REDACTED]".data) ∧
      ∀ v ∈ ["hunter2", "aHVudGVyMg=="].foldl registerSecret [],
        ¬v.data <:+: (handle (["hunter2", "aHVudGVyMg=="].foldl registerSecret [])
          ⟨"login as root with hunter2", [("cmd", .string "echo aHVudGVyMg== | base64 -d")]⟩).message.data ∧
        ∀ s ∈ attrsStrings (handle (["hunter2", "aHVudGVyMg=="].foldl registerSecret [])
          ⟨"login as root with hunter2", [("cmd", .string "echo aHVudGVyMg== | base64 -d")]⟩).attrs,
          ¬v.data <:+: s.data :=
  ⟨by decide, handle_redacts (by decide) _⟩

end Logging
end Hasteward
