import Mathlib.Data.List.Basic

/-!
# Runs of calls against the cluster

The heal and restore procedures talk to the API server in a fixed order, and what they guarantee
is a property of that order: which calls they make, what each answered, and what they return.
So a run is kept as data, `Run α`: the calls of type `α` made so far, each with the error it
returned (`none` for Go's `nil`).  The cluster is a parameter of every run: the error a call
returns may depend on every call made before it, so a theorem that holds for every answer
function holds for every sequence of outcomes, timeouts and retries included.

`Run.call` makes a call and `Run.call_fst` says what it adds.  The read-only calls that return
data (a pod's status, the cluster's annotation) are each engine's own, and so is the state the
mutating calls change.
-/

set_option autoImplicit false

namespace Hasteward
namespace K8s

/-- The calls made so far, each with the error it returned. -/
abbrev Run (α : Type) := List (α × Option String)

variable {α : Type}

/-- The calls of a run, without their answers. -/
def Run.calls (tr : Run α) : List α := tr.map (·.1)

@[simp] theorem Run.calls_nil : Run.calls ([] : Run α) = [] := rfl

@[simp] theorem Run.calls_append (tr tr' : Run α) :
    Run.calls (tr ++ tr') = Run.calls tr ++ Run.calls tr' := List.map_append _ _ _

@[simp] theorem Run.calls_cons (e : α × Option String) (tr : Run α) :
    Run.calls (e :: tr) = e.1 :: Run.calls tr := rfl

/-- Make call `c`: record it with the error `err` answers given the calls before it. -/
def Run.call (err : List α → α → Option String) (tr : Run α) (c : α) : Run α × Option String :=
  (tr ++ [(c, err tr.calls c)], err tr.calls c)

@[simp] theorem Run.call_fst (err : List α → α → Option String) (tr : Run α) (c : α) :
    (tr.call err c).1 = tr ++ [(c, err tr.calls c)] := rfl

@[simp] theorem Run.call_snd (err : List α → α → Option String) (tr : Run α) (c : α) :
    (tr.call err c).2 = err tr.calls c := rfl

/-- `tr'` is `tr` followed by calls that all satisfy `p`. -/
def Run.Extends (p : α → Prop) (tr tr' : Run α) : Prop :=
  ∃ more : Run α, tr' = tr ++ more ∧ ∀ e ∈ more, p e.1

theorem Run.Extends.refl (p : α → Prop) (tr : Run α) : tr.Extends p tr :=
  ⟨[], (List.append_nil _).symm, by simp⟩

theorem Run.Extends.trans {p : α → Prop} {tr tr' tr'' : Run α} (h : tr.Extends p tr')
    (h' : tr'.Extends p tr'') : tr.Extends p tr'' := by
  obtain ⟨m, rfl, hm⟩ := h
  obtain ⟨m', rfl, hm'⟩ := h'
  refine ⟨m ++ m', List.append_assoc _ _ _, fun e he => ?_⟩
  rcases List.mem_append.1 he with he | he
  · exact hm e he
  · exact hm' e he

theorem Run.Extends.call {p : α → Prop} (err : List α → α → Option String) (tr : Run α) {c : α}
    (hc : p c) : tr.Extends p (tr.call err c).1 :=
  ⟨_, rfl, by simpa using hc⟩

theorem Run.Extends.mono {p q : α → Prop} (hpq : ∀ c, p c → q c) {tr tr' : Run α}
    (h : tr.Extends p tr') : tr.Extends q tr' := by
  obtain ⟨m, rfl, hm⟩ := h
  exact ⟨m, rfl, fun e he => hpq _ (hm e he)⟩

end K8s
end Hasteward
