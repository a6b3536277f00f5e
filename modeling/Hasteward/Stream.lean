import Mathlib.Data.List.Basic

/-!
# The streaming pipelines: a dump piped into a consumer

Both engines move a database dump through an `io.Pipe` in two places.

* `BackupDump`: the producer is the remote dump (`pg_dumpall`, `mysqldump`), which
  `ExecPipeOut` runs in a goroutine that writes its stdout into the pipe and then closes the
  pipe, with the exec error when there is one.  The consumer is `restic backup --stdin`, which
  `BackupStdin` starts through os/exec with the pipe's read end as its stdin, so that os/exec
  copies the pipe into the process in a goroutine of its own.  The caller waits in `cmd.Wait()`,
  which returns once the process has exited *and* that copier has stopped, and then in `wait()`
  for the dump.
* `restoreDump`: the producer is `restic dump`, whose stdout os/exec copies into the pipe; its
  goroutine then closes the pipe, with restic's error when there is one, and closes `done`.  The
  consumer is the remote `psql` (`mysql`), fed by `ExecStream`, whose stdin copier reads the
  pipe.  The caller waits in `ExecStream`, which returns once the remote command has exited,
  whatever its stdin copier is doing, and then in `<-done` for the dump.

One step relation, `next`, covers both; `Join` is where they differ.  The collaborators follow
their contracts.  A write into the pipe returns once a read has taken its data.  A copier that
reads the end of the pipe, EOF or the producer's error, closes the consumer's stdin; a copier
whose write fails because the consumer has exited stops reading.  A consumer that reads the end
of its stdin exits with status zero, having accepted everything it read (the archiver commits it
as a snapshot); a consumer may also exit early, with an error, at any point.  Neither flow ever
closes the pipe's read end.  Data moves in chunks, one per write of the producer.

* `returned_ok_complete`: a run that returns success has passed the consumer the producer's
  whole output, and the producer exited with status zero.
* `backupDump_snapshot`: for every output, a dump that fails after writing it makes `BackupDump`
  return an error, and the archiver has committed that output all the same
  (`backupDump_commits_truncated` is one such run).
* `progress`: as long as the consumer has not exited early, some step other than its early exit
  can be taken until the caller returns.
* `pipelines_deadlock`: once it has, both pipelines can reach a state in which nothing moves:
  the caller waits on a producer blocked writing into a pipe that no one reads.
-/

set_option autoImplicit false

namespace Hasteward
namespace Stream

/-! ## The state and the steps -/

/-- How the caller joins the two sides. -/
inductive Join
  /-- `BackupDump`: `cmd.Wait()` waits for the consumer and for its stdin copier. -/
  | backupDump
  /-- `restoreDump`: `ExecStream` returns once the consumer has exited. -/
  | restoreDump
  deriving DecidableEq, Repr

/-- The goroutine that copies the pipe into the consumer's stdin. -/
inductive Copier
  | reading
  | holding (chunk : Nat)
  | stopped
  deriving DecidableEq, Repr

/-- The consumer process. -/
inductive Consumer
  /-- Running, having accepted `received`. -/
  | running (received : List Nat)
  /-- Read the end of its stdin and exited with status zero, having accepted `received`. -/
  | finished (received : List Nat)
  /-- Exited early, with an error. -/
  | quit
  deriving DecidableEq, Repr

/-- What the caller returns: success, the consumer side's error (`restic backup failed`,
`restore stream failed`), or the producer's (`pg_dumpall exec failed`, `restic dump failed`). -/
inductive Outcome
  | ok
  | consumerError
  | producerError
  deriving DecidableEq, Repr

/-- Where the caller is. -/
inductive Caller
  | awaitConsumer
  | awaitProducer
  | returned (o : Outcome)
  deriving DecidableEq, Repr

/-- The state of a pipeline. -/
structure St where
  /-- The chunks the producer has still to write. -/
  pending : List Nat
  /-- The chunk a blocked write is handing over, not yet read. -/
  slot : Option Nat
  /-- The pipe's write end, once closed: with EOF (`true`) or with the producer's error.  The
  producer's goroutine returns in the same step. -/
  closed : Option Bool
  copier : Copier
  /-- The copier stopped on the producer's error. -/
  copyFailed : Bool
  /-- The copier has closed the consumer's stdin. -/
  stdinClosed : Bool
  consumer : Consumer
  caller : Caller
  deriving DecidableEq, Repr

/-- The start of a run whose producer writes `out`. -/
def init (out : List Nat) : St :=
  ⟨out, none, none, .reading, false, false, .running [], .awaitConsumer⟩

/-- A step of one of the four parties. -/
inductive Act
  | write
  | close
  | copyRead
  | copyEnd
  | copyWrite
  | copyBroken
  | consumerEnd
  | consumerQuit
  | joinConsumer
  | joinProducer
  deriving DecidableEq, Repr

/-- Every step. -/
def Act.all : List Act :=
  [.write, .close, .copyRead, .copyEnd, .copyWrite, .copyBroken, .consumerEnd, .consumerQuit,
    .joinConsumer, .joinProducer]

/-- Whether the consumer is still running. -/
def Consumer.isRunning : Consumer → Bool
  | .running _ => true
  | _ => false

/-- What the caller returns once both joins are done. -/
def outcome (j : Join) (s : St) : Outcome :=
  match j with
  | .backupDump =>
    if s.consumer = .quit ∨ s.copyFailed then .consumerError
    else if s.closed = some false then .producerError else .ok
  | .restoreDump =>
    if s.consumer = .quit then .consumerError
    else if s.closed = some false then .producerError else .ok

/-- Whether the caller's wait on the consumer side can return. -/
def consumerJoined (j : Join) (s : St) : Bool :=
  !s.consumer.isRunning &&
    match j with
    | .backupDump => s.copier == .stopped
    | .restoreDump => true

/-- One step; `exitOk` is whether the producer exits with status zero. -/
def next (j : Join) (exitOk : Bool) (s : St) : Act → Option St
  | .write =>
    match s.slot, s.pending with
    | none, c :: cs => some { s with pending := cs, slot := some c }
    | _, _ => none
  | .close =>
    if s.slot = none ∧ s.pending = [] ∧ s.closed = none then some { s with closed := some exitOk }
    else none
  | .copyRead =>
    match s.copier, s.slot with
    | .reading, some c => some { s with slot := none, copier := .holding c }
    | _, _ => none
  | .copyEnd =>
    match s.copier, s.slot, s.closed with
    | .reading, none, some b =>
      some { s with copier := .stopped, copyFailed := !b, stdinClosed := true }
    | _, _, _ => none
  | .copyWrite =>
    match s.copier, s.consumer with
    | .holding c, .running r => some { s with copier := .reading, consumer := .running (r ++ [c]) }
    | _, _ => none
  | .copyBroken =>
    match s.copier with
    | .holding _ => if s.consumer.isRunning then none else some { s with copier := .stopped }
    | _ => none
  | .consumerEnd =>
    match s.consumer with
    | .running r => if s.stdinClosed then some { s with consumer := .finished r } else none
    | _ => none
  | .consumerQuit =>
    match s.consumer with
    | .running _ => some { s with consumer := .quit }
    | _ => none
  | .joinConsumer =>
    if s.caller = .awaitConsumer ∧ consumerJoined j s then some { s with caller := .awaitProducer }
    else none
  | .joinProducer =>
    if s.caller = .awaitProducer ∧ s.closed.isSome then
      some { s with caller := .returned (outcome j s) }
    else none

/-- The states a run can reach. -/
inductive Reachable (j : Join) (out : List Nat) (exitOk : Bool) : St → Prop
  | start : Reachable j out exitOk (init out)
  | step {s s' : St} (a : Act) :
      Reachable j out exitOk s → next j exitOk s a = some s' → Reachable j out exitOk s'

/-- Replay a list of steps. -/
def run (j : Join) (exitOk : Bool) : St → List Act → Option St
  | s, [] => some s
  | s, a :: as => (next j exitOk s a).bind fun s' => run j exitOk s' as

theorem run_reachable {j : Join} {out : List Nat} {exitOk : Bool} :
    ∀ {s s' : St} (as : List Act), Reachable j out exitOk s → run j exitOk s as = some s' →
      Reachable j out exitOk s'
  | _, _, [], hs, h => by cases h; exact hs
  | s, _, a :: as, hs, h => by
    simp only [run, Option.bind_eq_some] at h
    obtain ⟨s₁, h₁, h₂⟩ := h
    exact run_reachable as (.step a hs h₁) h₂

/-! ## The invariant -/

/-- The chunks between the pipe and the consumer: the one the copier holds, then the one in the
pipe. -/
def inflight (s : St) : List Nat :=
  (match s.copier with
    | .holding c => [c]
    | _ => []) ++ s.slot.toList

/-- What every reachable state satisfies, for a producer writing `out` and exiting with
`exitOk`. -/
structure Inv (out : List Nat) (exitOk : Bool) (s : St) : Prop where
  /-- What the producer has written is what a running consumer accepted, then what is in
  flight. -/
  written : ∃ w, out = w ++ s.pending ∧ ∀ r, s.consumer = .running r → r ++ inflight s = w
  /-- The pipe is closed only when everything was written and read. -/
  closed_drained : s.closed.isSome → s.pending = [] ∧ s.slot = none
  closed_status : ∀ b, s.closed = some b → b = exitOk
  stdin_closed : s.stdinClosed = true → s.copier = .stopped ∧ s.closed = some exitOk
  finished_all : ∀ r, s.consumer = .finished r → r = out
  /-- The caller waits on the producer only once the consumer has exited. -/
  caller_after : s.caller ≠ .awaitConsumer → s.consumer.isRunning = false
  returned_ok : s.caller = .returned .ok → exitOk = true ∧ s.consumer = .finished out
  /-- The copier stops while the consumer runs only after closing its stdin. -/
  stopped_stdin : s.copier = .stopped → s.consumer.isRunning = true → s.stdinClosed = true
  finished_stdin : ∀ r, s.consumer = .finished r → s.stdinClosed = true

theorem inv_init (out : List Nat) (exitOk : Bool) : Inv out exitOk (init out) where
  written := ⟨[], rfl, fun r h => by cases h; rfl⟩
  closed_drained := by simp [init]
  closed_status := by simp [init]
  stdin_closed := by simp [init]
  finished_all := by simp [init]
  caller_after := by simp [init]
  returned_ok := by simp [init]
  stopped_stdin := by simp [init]
  finished_stdin := by simp [init]

/-! ## What each step does -/

section Steps

variable {j : Join} {exitOk : Bool} {s s' : St}

theorem next_write (h : next j exitOk s .write = some s') :
    ∃ c cs, s.slot = none ∧ s.pending = c :: cs ∧ s' = { s with pending := cs, slot := some c } := by
  simp only [next] at h
  split at h
  · cases h
    exact ⟨_, _, ‹_›, ‹_›, rfl⟩
  · cases h

theorem next_close (h : next j exitOk s .close = some s') :
    s.slot = none ∧ s.pending = [] ∧ s.closed = none ∧ s' = { s with closed := some exitOk } := by
  simp only [next] at h
  split_ifs at h with h1
  cases h
  exact ⟨h1.1, h1.2.1, h1.2.2, rfl⟩

theorem next_copyRead (h : next j exitOk s .copyRead = some s') :
    ∃ c, s.copier = .reading ∧ s.slot = some c ∧ s' = { s with slot := none, copier := .holding c } := by
  simp only [next] at h
  split at h <;> simp_all

theorem next_copyEnd (h : next j exitOk s .copyEnd = some s') :
    ∃ b, s.copier = .reading ∧ s.slot = none ∧ s.closed = some b ∧
      s' = { s with copier := .stopped, copyFailed := !b, stdinClosed := true } := by
  simp only [next] at h
  split at h <;> simp_all

theorem next_copyWrite (h : next j exitOk s .copyWrite = some s') :
    ∃ c r, s.copier = .holding c ∧ s.consumer = .running r ∧
      s' = { s with copier := .reading, consumer := .running (r ++ [c]) } := by
  simp only [next] at h
  split at h <;> simp_all

theorem next_copyBroken (h : next j exitOk s .copyBroken = some s') :
    (∃ c, s.copier = .holding c) ∧ s.consumer.isRunning = false ∧ s' = { s with copier := .stopped } := by
  simp only [next] at h
  split at h
  · split_ifs at h with h1
    cases h
    simp_all
  · cases h

theorem next_consumerEnd (h : next j exitOk s .consumerEnd = some s') :
    ∃ r, s.consumer = .running r ∧ s.stdinClosed = true ∧ s' = { s with consumer := .finished r } := by
  simp only [next] at h
  split at h
  · split_ifs at h with h1
    cases h
    simp_all
  · cases h

theorem next_consumerQuit (h : next j exitOk s .consumerQuit = some s') :
    s.consumer.isRunning = true ∧ s' = { s with consumer := .quit } := by
  simp only [next] at h
  split at h <;> simp_all [Consumer.isRunning]

theorem next_joinConsumer (h : next j exitOk s .joinConsumer = some s') :
    s.caller = .awaitConsumer ∧ consumerJoined j s = true ∧ s' = { s with caller := .awaitProducer } := by
  simp only [next] at h
  split_ifs at h with h1
  cases h
  exact ⟨h1.1, h1.2, rfl⟩

theorem next_joinProducer (h : next j exitOk s .joinProducer = some s') :
    s.caller = .awaitProducer ∧ s.closed.isSome = true ∧ s' = { s with caller := .returned (outcome j s) } := by
  simp only [next] at h
  split_ifs at h with h1
  cases h
  exact ⟨h1.1, h1.2, rfl⟩

theorem outcome_ok (h : outcome j s = .ok) : s.consumer ≠ .quit ∧ s.closed ≠ some false := by
  cases j <;> simp only [outcome] at h <;> split_ifs at h with h1 h2 <;> simp_all

/-! ## Every step keeps the invariant -/

variable {out : List Nat}

theorem Inv.write (hi : Inv out exitOk s) (h : next j exitOk s .write = some s') :
    Inv out exitOk s' := by
  obtain ⟨c, cs, h1, h2, rfl⟩ := next_write h
  have hopen : s.closed = none := by
    cases hc : s.closed with
    | none => rfl
    | some b => simp [(hi.closed_drained (by simp [hc])).1] at h2
  obtain ⟨w, hw, hr⟩ := hi.written
  refine { hi with
    written := ⟨w ++ [c], by simp [hw, h2], fun r hr' => ?_⟩
    closed_drained := by simp [hopen]
    stdin_closed := fun h3 => by simp [(hi.stdin_closed h3).2] at hopen }
  have := hr r hr'
  simp only [inflight, h1, Option.toList_none, List.append_nil] at this
  simp [inflight, ← this]

theorem Inv.close (hi : Inv out exitOk s) (h : next j exitOk s .close = some s') :
    Inv out exitOk s' := by
  obtain ⟨h1, h2, -, rfl⟩ := next_close h
  exact { hi with
    closed_drained := fun _ => ⟨h2, h1⟩
    closed_status := fun _ hb => (Option.some.inj hb).symm
    stdin_closed := fun h4 => ⟨(hi.stdin_closed h4).1, rfl⟩ }

theorem Inv.copyRead (hi : Inv out exitOk s) (h : next j exitOk s .copyRead = some s') :
    Inv out exitOk s' := by
  obtain ⟨c, h1, h2, rfl⟩ := next_copyRead h
  have hin : inflight { s with slot := none, copier := .holding c } = inflight s := by
    simp [inflight, h1, h2]
  obtain ⟨w, hw, hr⟩ := hi.written
  exact { hi with
    written := ⟨w, hw, fun r hr' => hin ▸ hr r hr'⟩
    closed_drained := fun hc => ⟨(hi.closed_drained hc).1, rfl⟩
    stdin_closed := fun h3 => absurd (hi.stdin_closed h3).1 (by simp [h1])
    stopped_stdin := fun h3 => nomatch h3 }

theorem Inv.copyEnd (hi : Inv out exitOk s) (h : next j exitOk s .copyEnd = some s') :
    Inv out exitOk s' := by
  obtain ⟨b, h1, h2, h3, rfl⟩ := next_copyEnd h
  have hin : inflight { s with copier := .stopped, copyFailed := !b, stdinClosed := true } =
      inflight s := by
    simp [inflight, h1, h2]
  obtain ⟨w, hw, hr⟩ := hi.written
  exact { hi with
    written := ⟨w, hw, fun r hr' => hin ▸ hr r hr'⟩
    stdin_closed := fun _ => ⟨rfl, by rw [h3, hi.closed_status b h3]⟩
    stopped_stdin := fun _ _ => rfl
    finished_stdin := fun _ _ => rfl }

theorem Inv.copyWrite (hi : Inv out exitOk s) (h : next j exitOk s .copyWrite = some s') :
    Inv out exitOk s' := by
  obtain ⟨c, r, h1, h2, rfl⟩ := next_copyWrite h
  have hcaller : s.caller = .awaitConsumer := by
    by_contra hne
    simpa [h2, Consumer.isRunning] using hi.caller_after hne
  have hopen : s.stdinClosed = false := by
    cases hs : s.stdinClosed with
    | false => rfl
    | true => simp [(hi.stdin_closed hs).1] at h1
  obtain ⟨w, hw, hr⟩ := hi.written
  refine { hi with
    written := ⟨w, hw, fun r' hr' => ?_⟩
    stdin_closed := by simp [hopen]
    finished_all := fun _ h3 => nomatch h3
    caller_after := fun hne => absurd hcaller hne
    returned_ok := by simp [hcaller]
    stopped_stdin := fun h3 => nomatch h3
    finished_stdin := fun _ h3 => nomatch h3 }
  cases hr'
  have := hr r h2
  simp only [inflight, h1, List.singleton_append] at this
  simp [inflight, ← this]

theorem Inv.copyBroken (hi : Inv out exitOk s) (h : next j exitOk s .copyBroken = some s') :
    Inv out exitOk s' := by
  obtain ⟨⟨c, h1⟩, h2, rfl⟩ := next_copyBroken h
  obtain ⟨w, hw, -⟩ := hi.written
  exact { hi with
    written := ⟨w, hw, fun r (hr' : s.consumer = _) => by simp [hr', Consumer.isRunning] at h2⟩
    stdin_closed := fun h3 => absurd (hi.stdin_closed h3).1 (by simp [h1])
    stopped_stdin := fun _ h3 => absurd h3 (by simp [h2]) }

theorem Inv.consumerEnd (hi : Inv out exitOk s) (h : next j exitOk s .consumerEnd = some s') :
    Inv out exitOk s' := by
  obtain ⟨r, h1, h2, rfl⟩ := next_consumerEnd h
  obtain ⟨hstop, hclosed⟩ := hi.stdin_closed h2
  obtain ⟨hpend, hslot⟩ := hi.closed_drained (by simp [hclosed])
  obtain ⟨w, hw, hr⟩ := hi.written
  have hrw : r = out := by
    have := hr r h1
    simp only [inflight, hstop, hslot, Option.toList_none, List.append_nil] at this
    rw [hw, hpend, List.append_nil, this]
  exact { hi with
    written := ⟨w, hw, fun _ h3 => nomatch h3⟩
    finished_all := fun _ h3 => by cases h3; exact hrw
    caller_after := fun _ => rfl
    returned_ok := fun (ho : s.caller = _) =>
      absurd (hi.caller_after (by simp [ho])) (by simp [h1, Consumer.isRunning])
    stopped_stdin := fun _ h3 => nomatch h3
    finished_stdin := fun _ _ => h2 }

theorem Inv.consumerQuit (hi : Inv out exitOk s) (h : next j exitOk s .consumerQuit = some s') :
    Inv out exitOk s' := by
  obtain ⟨h1, rfl⟩ := next_consumerQuit h
  obtain ⟨w, hw, -⟩ := hi.written
  exact { hi with
    written := ⟨w, hw, fun _ h3 => nomatch h3⟩
    finished_all := fun _ h3 => nomatch h3
    caller_after := fun _ => rfl
    returned_ok := fun (ho : s.caller = _) => absurd (hi.caller_after (by simp [ho])) (by simp [h1])
    stopped_stdin := fun _ h3 => nomatch h3
    finished_stdin := fun _ h3 => nomatch h3 }

theorem Inv.joinConsumer (hi : Inv out exitOk s) (h : next j exitOk s .joinConsumer = some s') :
    Inv out exitOk s' := by
  obtain ⟨-, h2, rfl⟩ := next_joinConsumer h
  simp only [consumerJoined, Bool.and_eq_true, Bool.not_eq_true'] at h2
  exact { hi with
    caller_after := fun _ => h2.1
    returned_ok := fun h3 => nomatch h3 }

theorem Inv.joinProducer (hi : Inv out exitOk s) (h : next j exitOk s .joinProducer = some s') :
    Inv out exitOk s' := by
  obtain ⟨h1, h2, rfl⟩ := next_joinProducer h
  have hrun := hi.caller_after (by simp [h1])
  refine { hi with
    caller_after := fun _ => hrun
    returned_ok := fun ho => ?_ }
  obtain ⟨hq, hf⟩ := outcome_ok (by simpa using ho)
  obtain ⟨b, hb⟩ := Option.isSome_iff_exists.1 h2
  cases hc : s.consumer with
  | running r => simp [hc, Consumer.isRunning] at hrun
  | finished r =>
    have hb' : b = true := by cases b <;> simp_all
    exact ⟨hb' ▸ (hi.closed_status b hb).symm, by simp [hi.finished_all r hc]⟩
  | quit => exact absurd hc hq

theorem inv_step {a : Act} (hi : Inv out exitOk s) (h : next j exitOk s a = some s') :
    Inv out exitOk s' := by
  cases a with
  | write => exact hi.write h
  | close => exact hi.close h
  | copyRead => exact hi.copyRead h
  | copyEnd => exact hi.copyEnd h
  | copyWrite => exact hi.copyWrite h
  | copyBroken => exact hi.copyBroken h
  | consumerEnd => exact hi.consumerEnd h
  | consumerQuit => exact hi.consumerQuit h
  | joinConsumer => exact hi.joinConsumer h
  | joinProducer => exact hi.joinProducer h

end Steps

/-! ## Whole runs -/

theorem Reachable.inv {j : Join} {out : List Nat} {exitOk : Bool} {s : St}
    (h : Reachable j out exitOk s) : Inv out exitOk s := by
  induction h with
  | start => exact inv_init out exitOk
  | step _ _ hn ih => exact inv_step ih hn

/-- **Success means the whole output.**  A run that returns success has handed the consumer (for
`BackupDump`, the archiver, which committed it) everything the producer wrote, and the producer
exited with status zero. -/
theorem returned_ok_complete (j : Join) (out : List Nat) (exitOk : Bool) {s : St}
    (h : Reachable j out exitOk s) (hret : s.caller = .returned .ok) :
    exitOk = true ∧ s.consumer = .finished out :=
  h.inv.returned_ok hret

/-- The end of a `restoreDump` that passes two chunks and succeeds. -/
def restoredTwo : St := ⟨[], none, some true, .stopped, false, true, .finished [1, 2], .returned .ok⟩

theorem returned_ok_complete_restoredTwo :
    Reachable .restoreDump [1, 2] true restoredTwo ∧ restoredTwo.caller = .returned .ok ∧
      (true = true ∧ restoredTwo.consumer = .finished [1, 2]) :=
  have h : Reachable .restoreDump [1, 2] true restoredTwo :=
    run_reachable [.write, .copyRead, .copyWrite, .write, .copyRead, .copyWrite, .close, .copyEnd,
      .consumerEnd, .joinConsumer, .joinProducer] .start rfl
  ⟨h, rfl, returned_ok_complete .restoreDump [1, 2] true h rfl⟩

theorem run_append (j : Join) (exitOk : Bool) (s : St) (as bs : List Act) :
    run j exitOk s (as ++ bs) = (run j exitOk s as).bind fun s' => run j exitOk s' bs := by
  induction as generalizing s with
  | nil => rfl
  | cons a as ih =>
    simp only [List.cons_append, run]
    cases next j exitOk s a <;> simp [ih]

/-- The steps that move one chunk from the producer to the consumer. -/
def passChunk : List Act := [.write, .copyRead, .copyWrite]

/-- With the copier waiting and the consumer running, the producer's chunks all reach the
consumer. -/
theorem run_passChunks (j : Join) (exitOk : Bool) (cs : List Nat) :
    ∀ (s : St) (r : List Nat), s.slot = none → s.copier = .reading → s.consumer = .running r →
      s.pending = cs →
      run j exitOk s (cs.flatMap fun _ => passChunk) =
        some { s with pending := [], consumer := .running (r ++ cs) } := by
  induction cs with
  | nil =>
    rintro ⟨_, _, _, _, _, _, _, _⟩ r - - hc hp
    simp only at hc hp
    subst hc hp
    simp [run]
  | cons c cs ih =>
    intro s r h1 h2 hc hp
    rw [List.flatMap_cons, run_append]
    have hstep : run j exitOk s passChunk =
        some { s with pending := cs, consumer := .running (r ++ [c]) } := by
      obtain ⟨_, _, _, _, _, _, _, _⟩ := s
      simp only at h1 h2 hc hp
      subst h1 h2 hc hp
      rfl
    rw [hstep, Option.some_bind,
      ih { s with pending := cs, consumer := .running (r ++ [c]) } (r ++ [c]) h1 h2 rfl rfl]
    simp

/-- **A failed dump is committed.**  For every output of a dump that then fails, `BackupDump`
can hand the archiver that whole output, see it committed as a snapshot, and return the error. -/
theorem backupDump_snapshot (out : List Nat) :
    (∀ exitOk s, Reachable .backupDump out exitOk s → s.caller = .returned .ok →
        exitOk = true ∧ s.consumer = .finished out) ∧
      ∃ s, Reachable .backupDump out false s ∧ s.caller = .returned .consumerError ∧
        s.consumer = .finished out := by
  refine ⟨fun _ _ h => h.inv.returned_ok, ?_⟩
  have hrun : run .backupDump false (init out) ((out.flatMap fun _ => passChunk) ++
      [.close, .copyEnd, .consumerEnd, .joinConsumer, .joinProducer]) =
      some { init out with
        pending := [], closed := some false, copier := .stopped, copyFailed := true,
        stdinClosed := true, consumer := .finished out, caller := .returned .consumerError } := by
    rw [run_append, run_passChunks .backupDump false out (init out) [] rfl rfl rfl rfl]
    rfl
  exact ⟨_, run_reachable _ .start hrun, rfl, rfl⟩

theorem backupDump_commits_truncated :
    ∃ s, Reachable .backupDump [1, 2] false s ∧ s.caller = .returned .consumerError ∧
      s.consumer = .finished [1, 2] :=
  ⟨_, run_reachable [.write, .copyRead, .copyWrite, .write, .copyRead, .copyWrite, .close,
    .copyEnd, .consumerEnd, .joinConsumer, .joinProducer] .start rfl, rfl, rfl⟩

/-- **A deadlock needs an early exit.**  As long as the consumer has not exited early, some party
other than the consumer can take a step, one that moves the stream or a join forward, until the
caller returns. -/
theorem progress {j : Join} {out : List Nat} {exitOk : Bool} {s : St}
    (h : Reachable j out exitOk s) (hq : s.consumer ≠ .quit) :
    (∃ o, s.caller = .returned o) ∨
      ∃ a, a ≠ .consumerQuit ∧ ∃ s', next j exitOk s a = some s' := by
  have hi := h.inv
  cases hc : s.consumer with
  | quit => exact absurd hc hq
  | running r =>
    right
    cases hp : s.copier with
    | holding c => exact ⟨.copyWrite, nofun, by simp [next, hp, hc]⟩
    | stopped =>
      have := hi.stopped_stdin hp (by simp [hc, Consumer.isRunning])
      exact ⟨.consumerEnd, nofun, by simp [next, hc, this]⟩
    | reading =>
      cases hs : s.slot with
      | some c => exact ⟨.copyRead, nofun, by simp [next, hp, hs]⟩
      | none =>
        cases hpe : s.pending with
        | cons c cs => exact ⟨.write, nofun, by simp [next, hs, hpe]⟩
        | nil =>
          cases hcl : s.closed with
          | none => exact ⟨.close, nofun, by simp [next, hs, hpe, hcl]⟩
          | some b => exact ⟨.copyEnd, nofun, by simp [next, hp, hs, hcl]⟩
  | finished r =>
    obtain ⟨hstop, hclosed⟩ := hi.stdin_closed (hi.finished_stdin r hc)
    cases hca : s.caller with
    | returned o => exact .inl ⟨o, rfl⟩
    | awaitConsumer =>
      exact .inr ⟨.joinConsumer, nofun, by
        cases j <;> simp [next, hca, consumerJoined, hc, hstop, Consumer.isRunning]⟩
    | awaitProducer => exact .inr ⟨.joinProducer, nofun, by simp [next, hca, hclosed]⟩

theorem progress_init :
    Reachable .restoreDump [1] true (init [1]) ∧ (init [1]).consumer ≠ .quit ∧
      ((∃ o, (init [1]).caller = .returned o) ∨
        ∃ a, a ≠ .consumerQuit ∧ ∃ s', next .restoreDump true (init [1]) a = some s') :=
  ⟨.start, by decide, progress .start (by decide)⟩

/-- Both pipelines deadlock when the consumer exits before reading: the copier takes one chunk,
its write fails, the caller's first join returns, and the producer's next write blocks for good
while the caller waits on it. -/
theorem pipelines_deadlock (j : Join) :
    ∃ s, Reachable j [1, 2, 3] true s ∧ s.caller = .awaitProducer ∧ s.slot = some 2 ∧
      s.consumer = .quit ∧ s.copier = .stopped ∧ ∀ a, next j true s a = none := by
  cases j <;>
    exact ⟨_, run_reachable [.consumerQuit, .write, .copyRead, .copyBroken, .joinConsumer, .write]
      .start rfl, rfl, rfl, rfl, rfl, fun a => by cases a <;> rfl⟩

end Stream
end Hasteward
