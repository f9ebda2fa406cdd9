/-
The events of a log over its whole history.

A history is a list of steps, and the database may give up on each of them at any statement.  A step
that fails leaves the log as it is.  What is read at the end are the events of the batches that were
stored after the last wipe, in their order.  A history in which the database never gives up is the
special case that it carries out as many statements as it takes.
-/
import Mathlib.Data.List.Induction
import RetrievalTelemetry.Proofs.EventLog.Statements

namespace RetrievalTelemetry.EventLog

/-! ### Histories -/

/-- The log after a history, in which the database carries out a number of statements of each step; a
step that fails leaves the log as it is. -/
def afterUntil (log : EventLog) (steps : List (Nat × LogStep)) : EventLog :=
  steps.foldl (fun log s => (log.stepUntil s.1 s.2).toOption.getD log) log

/-- The steps of a history that do not fail. -/
def succeededUntil (log : EventLog) : List (Nat × LogStep) → List LogStep
  | [] => []
  | s :: rest =>
    match log.stepUntil s.1 s.2 with
    | .error _ => log.succeededUntil rest
    | .ok log => s.2 :: log.succeededUntil rest

/-- The log after a history in which the database never gives up. -/
def after (log : EventLog) (steps : List LogStep) : EventLog :=
  steps.foldl (fun log s => (log.step s).toOption.getD log) log

/-- The steps of such a history that do not fail. -/
def succeeded (log : EventLog) : List LogStep → List LogStep
  | [] => []
  | s :: rest =>
    match log.step s with
    | .error _ => log.succeeded rest
    | .ok log => s :: log.succeeded rest

/-- The events of all steps behind the last wipe. -/
def sinceWipe (steps : List LogStep) : List Event :=
  (steps.reverse.takeWhile fun s => !s.isWipe).reverse.flatMap LogStep.events

theorem sinceWipe_wipe (steps : List LogStep) : sinceWipe (steps ++ [.wipe]) = [] := by
  simp [sinceWipe, LogStep.isWipe]

theorem sinceWipe_concat (steps : List LogStep) {s : LogStep} (hs : s.isWipe = false) :
    sinceWipe (steps ++ [s]) = sinceWipe steps ++ s.events := by
  simp [sinceWipe, hs]

theorem afterUntil_concat (log : EventLog) (steps : List (Nat × LogStep)) (n : Nat) (s : LogStep) :
    log.afterUntil (steps ++ [(n, s)])
      = ((log.afterUntil steps).stepUntil n s).toOption.getD (log.afterUntil steps) := by
  unfold afterUntil
  rw [List.foldl_append]
  rfl

theorem succeededUntil_concat (log : EventLog) (steps : List (Nat × LogStep)) (n : Nat)
    (s : LogStep) :
    log.succeededUntil (steps ++ [(n, s)])
      = log.succeededUntil steps ++
        if ((log.afterUntil steps).stepUntil n s).isOk then [s] else [] := by
  induction steps generalizing log with
  | nil =>
      show log.succeededUntil [(n, s)] = if (log.stepUntil n s).isOk then [s] else []
      unfold succeededUntil succeededUntil
      cases log.stepUntil n s <;> rfl
  | cons first rest ih =>
      rw [List.cons_append, succeededUntil, succeededUntil]
      have hafter : log.afterUntil (first :: rest)
          = ((log.stepUntil first.1 first.2).toOption.getD log).afterUntil rest := rfl
      rw [hafter]
      cases hstep : log.stepUntil first.1 first.2 with
      | error error => exact ih log
      | ok next => exact congrArg (first.2 :: ·) (ih next)

/-! ### Histories in one go -/

/-- The steps with as many statements as they take. -/
def inOneGo (steps : List LogStep) : List (Nat × LogStep) :=
  steps.map fun s => ((statements s).length + 1, s)

theorem stepUntil_inOneGo (log : EventLog) (s : LogStep) :
    log.stepUntil ((statements s).length + 1) s = log.step s :=
  (stepUntil_cases _ log s).resolve_right fun h => Nat.not_succ_le_self _ h.1

theorem afterUntil_inOneGo (log : EventLog) (steps : List LogStep) :
    log.afterUntil (inOneGo steps) = log.after steps := by
  unfold afterUntil after inOneGo
  rw [List.foldl_map]
  refine List.foldl_ext _ _ _ fun log s _ => ?_
  dsimp only
  rw [stepUntil_inOneGo]

theorem succeededUntil_inOneGo (log : EventLog) (steps : List LogStep) :
    log.succeededUntil (inOneGo steps) = log.succeeded steps := by
  induction steps generalizing log with
  | nil => rfl
  | cons s rest ih =>
      have hcons : inOneGo (s :: rest) = ((statements s).length + 1, s) :: inOneGo rest := rfl
      rw [hcons, succeededUntil, succeeded]
      dsimp only
      rw [stepUntil_inOneGo]
      cases log.step s with
      | error error => exact ih log
      | ok next => exact congrArg (s :: ·) (ih next)

/-! ### What is held -/

namespace Holds

variable {log : EventLog} {events : List Event}

/-- A step that succeeds does what it says, also statement by statement. -/
theorem stepUntil (h : Holds log events) {n : Nat} {s : LogStep} {log' : EventLog}
    (hstep : log.stepUntil n s = .ok log') :
    Holds log' (if s.isWipe then [] else events ++ s.events) := by
  rcases stepUntil_cases n log s with hdone | ⟨-, operation, hfail⟩
  · rw [hdone] at hstep
    exact h.step hstep
  · rw [hfail] at hstep
    cases hstep

/-- A batch of events is stored exactly if all its times have a year in UTC and the database does not
give up on it.  An empty batch needs no statement. -/
theorem insertEventsUntil_iff (h : Holds log events) (n : Nat) (batch : List Event) :
    (∃ next, log.stepUntil n (.insertEvents batch) = .ok next) ↔
      (batch ≠ [] → batch.length < n) ∧
        ∀ e ∈ batch, e.phaseStart.hasUtcYear = true ∧ e.time.hasUtcYear = true := by
  have hlength : (statements (.insertEvents batch)).length = batch.length := List.length_map _
  by_cases hgivesUp : batch ≠ [] ∧ n ≤ batch.length
  · obtain ⟨hne, hle⟩ := hgivesUp
    refine iff_of_false ?_ fun hstored => absurd (hstored.1 hne) (Nat.not_lt.mpr hle)
    rintro ⟨next, hnext⟩
    obtain ⟨error, herror⟩ := @insertEventsUntil_of_le log n batch hne hle
    have hfail : log.stepUntil n (.insertEvents batch) = .error error :=
      congrArg (Except.map Prod.snd) herror
    rw [hfail] at hnext
    cases hnext
  · have hdone : log.stepUntil n (.insertEvents batch) = log.step (.insertEvents batch) := by
      rcases stepUntil_cases n log (.insertEvents batch) with hdone | ⟨hle, -⟩
      · exact hdone
      · rw [hlength] at hle
        obtain rfl : batch = [] := by
          by_contra hne
          exact hgivesUp ⟨hne, hle⟩
        rfl
    rw [hdone, h.insertEvents_iff]
    refine (and_iff_right fun hne => ?_).symm
    exact Nat.not_le.mp fun hle => hgivesUp ⟨hne, hle⟩

end Holds

/-- After every history of a new log, it holds the events of the batches that were stored since the
last wipe. -/
theorem holds_afterUntil (steps : List (Nat × LogStep)) :
    Holds (EventLog.empty.afterUntil steps) (sinceWipe (EventLog.empty.succeededUntil steps)) := by
  induction steps using List.reverseRecOn with
  | nil => exact Holds.empty
  | append_singleton steps s ih =>
      obtain ⟨n, s⟩ := s
      rw [afterUntil_concat, succeededUntil_concat]
      cases hstep : (EventLog.empty.afterUntil steps).stepUntil n s with
      | error error =>
          show Holds _ (sinceWipe (_ ++ []))
          rw [List.append_nil]
          exact ih
      | ok next =>
          have hnext := ih.stepUntil hstep
          show Holds next (sinceWipe (_ ++ [s]))
          cases hwipe : s.isWipe with
          | true =>
              rw [hwipe, if_pos rfl] at hnext
              cases s with
              | wipe =>
                  rw [sinceWipe_wipe]
                  exact hnext
              | insertEvents events => cases hwipe
              | insertRecords records => cases hwipe
              | reopen => cases hwipe
          | false =>
              rw [hwipe, if_neg Bool.false_ne_true] at hnext
              rw [sinceWipe_concat _ hwipe]
              exact hnext

theorem holds_after (steps : List LogStep) :
    Holds (EventLog.empty.after steps) (sinceWipe (EventLog.empty.succeeded steps)) := by
  rw [← afterUntil_inOneGo, ← succeededUntil_inOneGo]
  exact holds_afterUntil (inOneGo steps)

/-- Whatever was done with a new log, and wherever the database gave up, reading it gives the events of
the batches that were stored since the last wipe: all of them, each once, in the order in which they
were stored.  Each is read as it was stored, with its times in UTC, and so the report on what is read
is the report on what was stored.  A batch is stored unless the database gives up on it or one of its
times has no year in UTC. -/
theorem fetchEvents_after (steps : List (Nat × LogStep)) :
    let log := EventLog.empty.afterUntil steps
    let stored := sinceWipe (EventLog.empty.succeededUntil steps)
    (∃ read, log.fetchEvents = .ok read ∧ List.Forall₂ Event.ReadBack stored read ∧
      Report.ofLog read = Report.ofLog stored) ∧
      ∀ n batch, (∃ next, log.stepUntil n (.insertEvents batch) = .ok next) ↔
        (batch ≠ [] → batch.length < n) ∧
          ∀ e ∈ batch, e.phaseStart.hasUtcYear = true ∧ e.time.hasUtcYear = true := by
  intro log stored
  have hholds : Holds log stored := holds_afterUntil steps
  refine ⟨⟨stored.map Event.inUtc, hholds.fetchEvents, ?_, Report.ofLog_inUtc stored⟩,
    hholds.insertEventsUntil_iff⟩
  refine List.forall₂_map_right_iff.mpr (List.forall₂_same.mpr ?_)
  intro e _
  exact e.readBack_inUtc

end RetrievalTelemetry.EventLog
