import WhatsappBot.Runtime.Movers

/-!
# Jobs under review

Startup recovery parks a job whose delivery is uncertain in `REVIEW_REQUIRED`,
from where only an operator is meant to take it. Recovery takes every
`PROCESSING` row for an orphan, also the one that a dry-run worker of the
command line has in hand; that worker's `catch` block then moves the job out
of review (`review_left_by_cli_worker`). Where recovery never runs beside a
worker with a `PROCESSING` job, only operators end a review.
-/

namespace WhatsappBot

open Lib.SharedStore Lib.Transition JobRepository

namespace Processes

/-- Whether a live worker holds a job whose row is `PROCESSING`. -/
def holdsProcessing (s : Processes) : Bool :=
  s.workers.entries.any fun entry =>
    match entry.2.phase.working with
    | none => false
    | some job =>
      match s.db.job? job.id with
      | none => false
      | some row => row.status = .PROCESSING

/-- Startup recovery only runs while no live worker holds a `PROCESSING` job. -/
def RecoveryAlone (s : Processes) (a : Action) : Prop := a.recovers → s.holdsProcessing = false

instance (s : Processes) (a : Action) : Decidable (RecoveryAlone s a) :=
  inferInstanceAs (Decidable (_ → _))

/-- In every run whose steps meet `G`, whoever moves a job out of
`REVIEW_REQUIRED` is an operator who retries, cancels or marks that job. -/
def ReviewLeftByOperators (platform : Platform) (G : Processes → Action → Prop) : Prop :=
  ∀ {s₀ s t : Processes} {as : List Action} {a : Action} {id : Nat} {r r' : QueueJob},
    s₀.Start → (system platform).RunWhere G s₀ as s → G s a →
    (system platform).step s a = some t →
    s.db.job? id = some r → r.status = .REVIEW_REQUIRED →
    t.db.job? id = some r' → r'.status ≠ .REVIEW_REQUIRED → a.resolves s id

def NotUnderReview (s : Processes) : Prop :=
  ∀ id w job row, s.workers.lookup id = some w → w.phase.working = some job →
    s.db.job? job.id = some row → row.status ≠ .REVIEW_REQUIRED

variable {platform : Platform} {s t : Processes} {a : Action}

theorem not_processing_of_alone (h : s.holdsProcessing = false) {id : WorkerId} {w : Worker}
    {job row : QueueJob} (found : s.workers.lookup id = some w)
    (working : w.phase.working = some job) (hrow : s.db.job? job.id = some row) :
    row.status ≠ .PROCESSING := by
  intro processing
  have hmem : (⟨id, w⟩ : Sigma fun _ => Worker) ∈ s.workers.entries := AList.mem_lookup_iff.mp found
  have hany := List.any_eq_false.mp h _ hmem
  simp only [working, hrow, processing, decide_true, not_true_eq_false] at hany

theorem NotUnderReview.step (h : s.NotUnderReview) (wellHeld : s.WellHeld)
    (alone : RecoveryAlone s a) (step : (system platform).step s a = some t) :
    t.NotUnderReview := by
  intro id w' job row' found' working' hrow'
  rcases held_after step found' working' with ⟨w, found, working, -⟩ |
    ⟨w, input, found, -, -, -, -, -, -, ran⟩
  · obtain ⟨row, hrow, -⟩ := (wellHeld.held found working).row
    have before := h id w _ row found working hrow
    rcases mover wellHeld step hrow with same | ⟨moved, hmoved, -, legal, mover⟩
    · rw [same] at hrow'
      cases hrow'
      exact before
    · rw [hmoved] at hrow'
      cases hrow'
      intro review
      rw [review] at mover legal
      cases mover with
      | queue unsent =>
        -- no legal move leads from the queue into review
        revert legal unsent
        cases row.status <;> decide
      | recovery recovers processing =>
        exact not_processing_of_alone (alone recovers) found working hrow processing
      | pass _ _ _ _ _ outcome => exact absurd outcome (by decide)
      | operator _ status => simp only [reduceCtorEq, false_and, or_self] at status
  · obtain ⟨claimedRow, -, -, rfl, claimed⟩ := claim_some ran
    rw [claimed] at hrow'
    cases hrow'
    intro review
    cases review

theorem Start.notUnderReview (h : s.Start) : s.NotUnderReview := by
  intro id w job row found
  rw [h.1, AList.lookup_empty] at found
  cases found

/-- **Only operators end a review**, in every run in which startup recovery
never runs while a live worker holds a `PROCESSING` job. -/
theorem review_left_by_operators (platform : Platform) :
    ReviewLeftByOperators platform RecoveryAlone := by
  intro s₀ s t as a id r r' start run guard step found review found' left
  have wellHeld := WellHeld.of_run start run
  have held : s.NotUnderReview :=
    run.invariant_under (J := NotUnderReview) (wellHeld_preserved _)
      (fun wellHeld held alone step => held.step wellHeld alone step)
      start.wellHeld start.notUnderReview
  obtain ⟨-, hid⟩ := Database.mem_of_job? found
  rcases mover wellHeld step found with same | ⟨moved, hmoved, -, legal, mover⟩
  · rw [same] at found'
    cases found'
    exact absurd review left
  · cases mover with
    | queue unsent =>
      rw [review] at unsent
      exact absurd unsent (by decide)
    | recovery _ processing =>
      rw [review] at processing
      cases processing
    | pass action found'' working _ _ _ same =>
      rw [← hid, same] at found
      exact absurd review (held _ _ _ _ found'' working found)
    | operator resolves => exact hid ▸ resolves

/-- An operator retries a job that recovery has put under review. -/
theorem review_left_by_operators_retry :
    ∃ s, (system Example.platform).RunWhere RecoveryAlone
      (Example.installation (Example.job .PROCESSING false))
      [.startDaemon (AppConfig.default false) (Example.clock 1)] s ∧
      (Action.command (.retry "1" "cli") (Example.clock 2)).resolves s 1 := by
  have trace : (((system Example.platform).execWhere RecoveryAlone
      (Example.installation (Example.job .PROCESSING false))
      [.startDaemon (AppConfig.default false) (Example.clock 1)]).any fun s =>
        (s.db.job? 1).any (·.status = .REVIEW_REQUIRED) &&
        ((system Example.platform).step s (.command (.retry "1" "cli") (Example.clock 2))).any
          fun t => (t.db.job? 1).any (·.status = .RETRY)) = true := by
    decide +kernel
  obtain ⟨s, run, trace⟩ := (Option.any_eq_true _ _).mp trace
  rw [Bool.and_eq_true] at trace
  obtain ⟨r, found, review⟩ := (Option.any_eq_true _ _).mp trace.1
  obtain ⟨t, step, retried⟩ := (Option.any_eq_true _ _).mp trace.2
  obtain ⟨r', found', retry⟩ := (Option.any_eq_true _ _).mp retried
  rw [decide_eq_true_eq] at review retry
  have run := System.runWhere_of_execWhere run
  exact ⟨s, run, review_left_by_operators Example.platform (Example.installation_start _) run
    (fun recovers => by cases recovers) step found review found' (by rw [retry]; decide)⟩

/-- The dry-run worker of `wts send` claims the job it has queued, and a daemon
starts before it is done with it. -/
def sweptRun : List Action :=
  [.startCli 0 (AppConfig.default true) (some Example.uuid.text) (Example.clock 0),
    Example.tick (.cli 0) 1, Example.tick (.cli 0) 2, Example.tick (.cli 0) 3,
    Example.tick (.cli 0) 4, .startDaemon (AppConfig.default false) (Example.clock 5),
    Example.tick (.cli 0) 6, Example.tick (.cli 0) 7, Example.tick (.cli 0) 8,
    Example.tick (.cli 0) 9, Example.tick (.cli 0) 10, Example.tick (.cli 0) 11]

/-- **The worker's `catch` block takes the job out of review**: the dry-run
outcome cannot be recorded on a job under review, and the retry that follows can. -/
theorem review_left_by_cli_worker :
    ¬ReviewLeftByOperators Example.platform fun _ _ => True := by
  have trace : (((system Example.platform).exec
      (Example.installation (Example.job .PENDING true)) sweptRun).any fun s =>
        (s.db.job? 1).any (·.status = .REVIEW_REQUIRED) &&
        ((system Example.platform).step s (Example.tick (.cli 0) 12)).any fun t =>
          (t.db.job? 1).any (·.status = .RETRY)) = true := by
    decide +kernel
  intro claim
  obtain ⟨s, run, trace⟩ := (Option.any_eq_true _ _).mp trace
  rw [Bool.and_eq_true] at trace
  obtain ⟨r, found, review⟩ := (Option.any_eq_true _ _).mp trace.1
  obtain ⟨t, step, retried⟩ := (Option.any_eq_true _ _).mp trace.2
  obtain ⟨r', found', retry⟩ := (Option.any_eq_true _ _).mp retried
  rw [decide_eq_true_eq] at review retry
  have byOperator := claim (Example.installation_start _) (System.run_of_exec run) trivial step
    found review found' (by rw [retry]; decide)
  cases byOperator

end Processes

end WhatsappBot
