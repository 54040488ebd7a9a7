import WhatsappBot.Db.ClaimQueue
import WhatsappBot.Runtime.Movers

/-!
# No stuck or lost job

Every party that moves a job to `RETRY` or `WAITING_RATE_LIMIT` says when it is
due again, so in every state that the program reaches all queued jobs of
destinations that can be sent to come out of the queue, in its order
(`backlog_drains`).
-/

namespace WhatsappBot

open Lib.SharedStore Lib.Transition Lib.PriorityQueue JobRepository

namespace QueueWorker

variable {w : Worker} {i : WorkerInput} {op : Op}

theorem reschedules_of_turn (h : turn w i = .call op) : op.Reschedules := by
  unfold turn at h
  cases phase : w.phase with
  | releasing | retrying | limiting | suspending =>
    simp only [phase, Turn.call.injEq] at h
    subst h
    exact fun _ _ => rfl
  | starting | readingReason | readingUntil | droppingUntil | droppingReason | resolving | noting
  | pausing | pausingReason | unlinking | unlinkingReason | auditing | ending | promoting
  | cancelling | claiming | forbidding | refusing | failing =>
    simp only [phase, Turn.call.injEq] at h
    subst h
    exact .of_target nofun nofun
  | settling job result =>
    simp only [phase, Turn.call.injEq] at h
    subst h
    cases result.dryRun <;> exact .of_target nofun nofun
  | connecting job result =>
    simp only [phase] at h
    split at h
    · cases h
      exact .of_target nofun nofun
    · cases h
  | ready | pacing | handing | sending | handling | returned | thrown | ended =>
    simp only [phase, reduceCtorEq] at h

end QueueWorker

namespace Processes

variable {platform : Platform} {s t : Processes} {a : Action}

theorem reschedules_of_commits {op : Op} (h : Commits platform s a op) : op.Reschedules := by
  cases h with
  | worker found turn => exact QueueWorker.reschedules_of_turn turn
  | recovery => exact .of_target nofun nofun
  | enqueue found turn =>
    rw [Op.Reschedules, (MessageService.target_of_turn turn).1]
    exact nofun
  | command command now =>
    cases command with
    | retry => exact fun _ _ => rfl
    | cancel | markSent | setEnabled | setAlias | setCanSend | synchronize | setState
    | removeState | createBatch | addAudit => exact .of_target nofun nofun

/-- What waits for another attempt knows when, in every state of a run. -/
def Dated (s : Processes) : Prop := ∀ r ∈ s.db.jobs.rows, r.Rescheduled

theorem initial_dated : initial.Dated := fun _ h => (List.not_mem_nil h).elim

theorem Dated.step (h : s.Dated) (step : (system platform).step s a = some t) : t.Dated := by
  rcases step_effect step with same | ⟨op, commits, effect⟩
  · rw [Dated, same]
    exact h
  · exact effect.rescheduled (reschedules_of_commits commits) h

/-- **No stuck or lost queued job**: what can be delivered is claimed, all of
it and in order, from any state that the program reaches. -/
theorem backlog_drains (platform : Platform) {s : Processes} {as : List Action} {now : Timestamp}
    (run : (system platform).Run initial as s) (late : NoneLater s.db now) :
    ∃ count db, promoteDueScheduled s.db now = .ok (count, db) ∧
      (∃ (order : List QueueJob) (after : Database),
        Drains (fun db => claim db now none false) db (order.map (claimedAt now)) after ∧
        order.Perm s.db.deliverable ∧
        order.Pairwise fun a b => claimOrder a ≤ claimOrder b) ∧
      ∀ job ∈ s.db.deliverable, ∃ after,
        claim db now (some job.uuid.text) false = .ok (some (claimedAt now job), after) := by
  have dated : s.Dated := run.invariant (fun h _ step => h.step step) initial_dated
  obtain ⟨count, db, promotion⟩ := promoteDueScheduled_total s.db now
  have promoted := promoteDueScheduled_ok promotion
  exact ⟨count, db, promotion, deliverable_drains promoted late dated,
    fun job deliverable => deliverable_claimed promoted late dated deliverable⟩

/-- A group is discovered and allowed, and a message to it queued. -/
def queuedRun : List Action :=
  [.command (.synchronize
      [{ jid := Example.group.jid, normalized := Example.group.normalized, subject := "Team" }]
      "startup") (Example.clock 0),
    .command (.setEnabled Example.group.jid true "cli") (Example.clock 1),
    .submit 0 (AppConfig.default false) Example.hello, Example.reply 0 Example.uuid 2,
    Example.reply 0 Example.uuid 3, Example.reply 0 Example.uuid 4]

/-- The message fails for the network, so it waits for another attempt; one more
is scheduled, and one just queued. -/
def backlogRun : List Action :=
  queuedRun ++ .startDaemon (AppConfig.default false) (Example.clock 5) ::
    List.replicate 10 (Example.tick .daemon 6) ++
  [.worker .daemon
      { clock := Example.clock 7
        wall := Example.clock 7
        outcome := .error (.delivery .TEMPORARY_NETWORK "Connection reset" none) },
    Example.tick .daemon 8, Example.tick .daemon 9, .crash .daemon,
    .submit 1 (AppConfig.default false)
      (.message
        { destination := Example.group.jid
          text := some "later"
          scheduledAt := some (Example.clock 500000) }),
    Example.reply 1 Example.otherUuid 10, Example.reply 1 Example.otherUuid 11,
    Example.reply 1 Example.otherUuid 12,
    .submit 2 (AppConfig.default false)
      (.message { destination := Example.group.jid, text := some "now" }),
    Example.reply 2 Example.thirdUuid 13, Example.reply 2 Example.thirdUuid 14,
    Example.reply 2 Example.thirdUuid 15]

/-- The platform with the digests of the three. -/
def digests : Platform :=
  Example.knowing
    [(Example.canonical "later" (Example.clock 500000).toISOString,
        "f6be8452ca3ace5da60ce04a6b963cc1e9674f139340b8fd0b0614236fac2c4c"),
      (Example.canonical "now" "IMMEDIATE",
        "b29c55df9077e9fa84f91a202fd94984d5a6d62b2e0f57358f1b8fe7d0d81de5")]

/-- When the three are due. -/
def dues : List (Timestamp ×ₗ Nat) :=
  [toLex ("2026-09-21T14:13:24.008Z", 1), toLex ((Example.clock 500000).toISOString, 2),
    toLex ((Example.clock 14).toISOString, 3)]

theorem backlog_drains_three :
    ∃ s db, ∃ (order : List QueueJob) (after : Database),
      (system digests).Run initial backlogRun s ∧
      s.db.deliverable.map QueueJob.status = [.RETRY, .SCHEDULED, .PENDING] ∧
      Drains (fun db => claim db (Example.clock 900000).toISOString none false) db
        (order.map (claimedAt (Example.clock 900000).toISOString)) after ∧
      order.map QueueJob.id = [3, 1, 2] := by
  have trace : (((system digests).exec initial backlogRun).any fun s =>
      decide (s.db.deliverable.map QueueJob.status = [.RETRY, .SCHEDULED, .PENDING]) &&
        decide (s.db.deliverable.map claimOrder = dues) && s.db.deliverable.all fun job =>
          decide (job.scheduledAt ≤ (Example.clock 900000).toISOString) &&
            job.nextAttemptAt.all fun next => next ≤ (Example.clock 900000).toISOString) =
        true := by
    decide +kernel
  obtain ⟨s, run, trace⟩ := (Option.any_eq_true _ _).mp trace
  rw [Bool.and_eq_true, Bool.and_eq_true, decide_eq_true_eq, decide_eq_true_eq] at trace
  obtain ⟨⟨statuses, due⟩, reached⟩ := trace
  have late : NoneLater s.db (Example.clock 900000).toISOString := by
    intro job hjob
    have past := List.all_eq_true.mp reached job hjob
    rw [Bool.and_eq_true, decide_eq_true_eq] at past
    refine ⟨past.1, fun next hnext => ?_⟩
    have before := past.2
    rw [hnext, Option.all_some, decide_eq_true_eq] at before
    exact before
  have run := System.run_of_exec run
  obtain ⟨_, db, -, ⟨order, after, drains, perm, sorted⟩, -⟩ := backlog_drains digests run late
  refine ⟨s, db, order, after, run, statuses, drains, ?_⟩
  have same : order.map claimOrder = [dues[2], dues[0], dues[1]] := by
    have permuted := perm.map claimOrder
    rw [due] at permuted
    have turned : dues.Perm [dues[2], dues[0], dues[1]] := by decide
    exact (permuted.trans turned).eq_of_pairwise (fun a b _ _ => le_antisymm)
      (List.pairwise_map.mpr sorted) (by decide)
  have ids : order.map QueueJob.id = (order.map claimOrder).map fun key => (ofLex key).2 := by
    rw [List.map_map]
    rfl
  rw [ids, same]
  rfl

end Processes

end WhatsappBot
