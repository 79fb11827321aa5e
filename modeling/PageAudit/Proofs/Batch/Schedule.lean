import Mathlib.Logic.Relation
import PageAudit.Proofs.Batch.Turns

/-! The workers of a batch, step after step.

Workers take the files of a batch in any order, and the batch may be cancelled at any time between
them. What they leave behind is the report of a list of turns in the order of the files, and any
pattern of cancellation is that of some run.
-/

namespace PageAudit.Batch

open Relation

/-- How far the workers are: whether the batch is cancelled, and each file with its outcome, when
its turn has come.
-/
structure Progress where
  isCancelled : Bool
  slots : List (Text × Option (Except ScanError FileReport))

namespace Progress

/-- No file has had its turn. -/
def start (paths : List Text) : Progress :=
  { isCancelled := false, slots := paths.map (·, none) }

/-- Every file has had its turn. -/
def IsDone (progress : Progress) : Prop :=
  ∀ slot ∈ progress.slots, slot.2.isSome

/-- The report of the outcomes in the order of the files. -/
def report (progress : Progress) : Report :=
  (progress.slots.filterMap (·.2)).foldl recordOutcome .empty

end Progress

/-- One step of the workers: the batch is cancelled, or a file that still waits has its turn. -/
inductive Step (batch : Batch) : Progress → Progress → Prop where
  | cancel (isCancelled : Bool) (slots : List (Text × Option (Except ScanError FileReport)))
    : Step batch { isCancelled, slots } { isCancelled := true, slots }
  | scan (isCancelled : Bool) (front back : List (Text × Option (Except ScanError FileReport)))
    (path : Text)
    : Step batch
        { isCancelled, slots := front ++ (path, none) :: back }
        { isCancelled
          slots := front ++ (path, some (batch.scanFile isCancelled path)) :: back }

/-- The workers go from one state to another. -/
abbrev Runs (batch : Batch) : Progress → Progress → Prop :=
  ReflTransGen batch.Step

variable {batch : Batch} {paths : List Text} {progress next : Progress}

/-- (Follows batch paths progress) says that the slots are those of the given files and that each
outcome is that of a turn.
-/
structure Follows (batch : Batch) (paths : List Text) (progress : Progress) : Prop where
  paths : progress.slots.map (·.1) = paths
  outcomes
    : ∀ slot ∈ progress.slots, ∀ outcome,
        slot.2 = some outcome → ∃ seen, outcome = batch.scanFile seen slot.1

theorem follows_start (batch : Batch) (paths : List Text) : batch.Follows paths (.start paths) := by
  constructor
  · rw [Progress.start, List.map_map]
    exact List.map_id paths
  · intro slot member outcome had
    obtain ⟨path, -, rfl⟩ := List.mem_map.mp member
    exact absurd had nofun

theorem Step.follows (step : batch.Step progress next) (follows : batch.Follows paths progress)
    : batch.Follows paths next := by
  cases step with
  | cancel isCancelled slots => exact ⟨follows.paths, follows.outcomes⟩
  | scan isCancelled front back path =>
      constructor
      · rw [← follows.paths, List.map_append, List.map_append]
        rfl
      · intro slot member outcome had
        rcases List.mem_append.mp member with early | late
        · exact follows.outcomes slot (List.mem_append_left _ early) outcome had
        · rcases List.mem_cons.mp late with rfl | late
          · exact ⟨isCancelled, (Option.some.inj had).symm⟩
          · exact follows.outcomes slot (List.mem_append_right _ (.tail _ late)) outcome had

theorem Runs.follows (runs : batch.Runs progress next) (follows : batch.Follows paths progress)
    : batch.Follows paths next := by
  induction runs with
  | refl => exact follows
  | tail _ step ih => exact step.follows ih

theorem Progress.results_report (progress : Progress)
    : progress.report.results
      = (progress.slots.filterMap (·.2)).filterMap Except.toOption :=
  Report.results_foldl_recordOutcome _

/-- A cancellation is never taken back, and a file that has its turn behind it is not scanned. -/
theorem Step.of_isCancelled (step : batch.Step progress next)
    (cancelled : progress.isCancelled = true)
    : next.isCancelled = true ∧ next.report.results = progress.report.results := by
  cases step with
  | cancel => exact ⟨rfl, rfl⟩
  | scan isCancelled front back path =>
      obtain rfl : isCancelled = true := cancelled
      refine ⟨rfl, ?_⟩
      rw [Progress.results_report, Progress.results_report, List.filterMap_append,
        List.filterMap_append, List.filterMap_append, List.filterMap_append]
      rfl

/-- No file is scanned any more behind the cancellation, by induction over the run. -/
theorem Runs.of_isCancelled (runs : batch.Runs progress next)
    (cancelled : progress.isCancelled = true)
    : next.isCancelled = true ∧ next.report.results = progress.report.results := by
  induction runs with
  | refl => exact ⟨cancelled, rfl⟩
  | tail _ step ih =>
      obtain ⟨still, same⟩ := ih
      obtain ⟨after, kept⟩ := step.of_isCancelled still
      exact ⟨after, kept.trans same⟩

/-- Slots in which every file has had its turn are those of a list of turns, by induction over the
slots.
-/
theorem exists_turns (slots : List (Text × Option (Except ScanError FileReport)))
    (done : ∀ slot ∈ slots, slot.2.isSome)
    (outcomes : ∀ slot ∈ slots, ∀ outcome,
      slot.2 = some outcome → ∃ seen, outcome = batch.scanFile seen slot.1)
    : ∃ turns : List (Text × Bool),
        turns.map (·.1) = slots.map (·.1) ∧ slots.filterMap (·.2) = batch.outcomes turns := by
  induction slots with
  | nil => exact ⟨[], rfl, rfl⟩
  | cons slot slots ih =>
      obtain ⟨outcome, had⟩ := Option.isSome_iff_exists.mp (done slot List.mem_cons_self)
      obtain ⟨seen, rfl⟩ := outcomes slot List.mem_cons_self outcome had
      obtain ⟨turns, paths, listed⟩ := ih (fun other among => done other (.tail _ among))
        fun other among => outcomes other (.tail _ among)
      refine ⟨(slot.1, seen) :: turns, ?_, ?_⟩
      · rw [List.map_cons, List.map_cons, paths]
      · rw [List.filterMap_cons_some had, listed]
        rfl

/-- Files that wait have their turns one behind the other in one state of the cancellation, by
induction over the turns.
-/
theorem runs_of_turns (isCancelled : Bool) (turns : List (Text × Bool))
    (before after : Text × Bool → Text × Option (Except ScanError FileReport))
    (scans : ∀ turn ∈ turns,
      after turn = before turn
      ∨ before turn = (turn.1, none)
        ∧ after turn = (turn.1, some (batch.scanFile isCancelled turn.1)))
    (front : List (Text × Option (Except ScanError FileReport)))
    : batch.Runs
        { isCancelled, slots := front ++ turns.map before }
        { isCancelled, slots := front ++ turns.map after } := by
  induction turns generalizing front with
  | nil => exact .refl
  | cons turn turns ih =>
      have others := ih (fun other among => scans other (.tail _ among)) (front ++ [after turn])
      rw [List.append_assoc, List.append_assoc] at others
      rw [List.map_cons, List.map_cons]
      rcases scans turn List.mem_cons_self with same | ⟨waits, had⟩
      · rw [← same]
        exact others
      · have step : batch.Step _ _ := .scan isCancelled front (turns.map before) turn.1
        rw [← waits, ← had] at step
        exact .head step others

/-- Every pattern of cancellation is that of a run: the files before the cancellation have their
turns, the batch is cancelled, and the other files have theirs.
-/
theorem exists_runs (batch : Batch) (turns : List (Text × Bool))
    : ∃ progress, batch.Runs (.start (turns.map (·.1))) progress ∧ progress.IsDone
        ∧ progress.report = batch.scanTurns turns := by
  let waiting (turn : Text × Bool) : Text × Option (Except ScanError FileReport) :=
    (turn.1, none)
  let halfway (turn : Text × Bool) : Text × Option (Except ScanError FileReport) :=
    (turn.1, if turn.2 then none else some (batch.scanFile false turn.1))
  let done (turn : Text × Bool) : Text × Option (Except ScanError FileReport) :=
    (turn.1, some (batch.scanFile turn.2 turn.1))
  have early : ∀ turn ∈ turns,
      halfway turn = waiting turn
      ∨ waiting turn = (turn.1, none)
        ∧ halfway turn = (turn.1, some (batch.scanFile false turn.1)) := by
    rintro ⟨path, isCancelled⟩ _
    cases isCancelled with
    | false => exact .inr ⟨rfl, rfl⟩
    | true => exact .inl rfl
  have late : ∀ turn ∈ turns,
      done turn = halfway turn
      ∨ halfway turn = (turn.1, none)
        ∧ done turn = (turn.1, some (batch.scanFile true turn.1)) := by
    rintro ⟨path, isCancelled⟩ _
    cases isCancelled with
    | false => exact .inl rfl
    | true => exact .inr ⟨rfl, rfl⟩
  have before : batch.Runs (.start (turns.map (·.1)))
      { isCancelled := false, slots := turns.map halfway } := by
    rw [Progress.start, List.map_map]
    exact runs_of_turns false turns waiting halfway early []
  have cancelled : batch.Runs { isCancelled := false, slots := turns.map halfway }
      { isCancelled := true, slots := turns.map halfway } :=
    .single (.cancel false _)
  have behind : batch.Runs { isCancelled := true, slots := turns.map halfway }
      { isCancelled := true, slots := turns.map done } :=
    runs_of_turns true turns halfway done late []
  refine ⟨_, (before.trans cancelled).trans behind, ?_, ?_⟩
  · intro slot member
    obtain ⟨turn, -, rfl⟩ := List.mem_map.mp member
    rfl
  · have listed : (turns.map done).filterMap (·.2) = batch.outcomes turns := by
      let outcome (turn : Text × Bool) := batch.scanFile turn.2 turn.1
      have each : turns.filterMap (some ∘ outcome) = turns.map outcome := by
        rw [List.filterMap_eq_map]
      rw [List.filterMap_map]
      exact each
    rw [Progress.report, listed]
    rfl

/-- The reports that the workers leave behind are those of the lists of turns of the files. -/
theorem exists_runs_iff (batch : Batch) (paths : List Text) (report : Report)
    : (∃ progress, batch.Runs (.start paths) progress ∧ progress.IsDone
          ∧ progress.report = report)
      ↔ ∃ turns : List (Text × Bool),
          turns.map (·.1) = paths ∧ batch.scanTurns turns = report := by
  constructor
  · rintro ⟨progress, runs, done, rfl⟩
    have follows := runs.follows (batch.follows_start paths)
    obtain ⟨turns, same, listed⟩ := exists_turns progress.slots done follows.outcomes
    refine ⟨turns, same.trans follows.paths, ?_⟩
    rw [Progress.report, listed]
    rfl
  · rintro ⟨turns, rfl, rfl⟩
    exact batch.exists_runs turns

end PageAudit.Batch
