import WhatsappBot.Messaging.Scheduler
import WhatsappBot.Runtime.Allowlist

/-!
# Scheduled jobs

A job waits in `SCHEDULED` until a pass promotes it, and the promotion
compares texts. `never_early` says for which clock readings that comparison is
the comparison of the instants, over whole runs; `promoted_early` is a date
past the year 9999, whose text sorts before today's.
-/

namespace WhatsappBot

open Lib.SharedStore Lib.Transition JobRepository

namespace Processes

variable {platform : Platform} {s t : Processes} {a : Action}

/-- A step promotes the job with this id. -/
def Promotes (s t : Processes) (id : Nat) : Prop :=
  ∃ r r', s.db.job? id = some r ∧ r.status = .SCHEDULED ∧ t.db.job? id = some r' ∧
    r'.status = .PENDING

/-- The pass clock of a worker that is about to promote. -/
def promotionClock (s : Processes) : Action → Option Date
  | .worker id _ =>
    match s.workers.lookup id with
    | none => none
    | some w => match w.phase with
      | .promoting => some w.now
      | _ => none
  | _ => none

/-- The pass clock of a worker that is about to claim. -/
def claimClock (s : Processes) : Action → Option Date
  | .worker id _ =>
    match s.workers.lookup id with
    | none => none
    | some w => match w.phase with
      | .claiming => some w.now
      | _ => none
  | _ => none

/-- Whether some pass has promoted at a clock reading at or after an instant. -/
def reached (due : Date) : Monitor Processes Action Bool where
  next k s a := k || (s.promotionClock a).any fun now => due.ms ≤ now.ms

/-- The clocks of the passes and the years of the schedule: before the instant,
a promotion's clock reading has a year whose text compares with that of the
instant as the years do, and no claim's clock reading lies before the instant
once another pass has promoted at or after it. -/
def OnTime (due : Date) (s : Processes × Bool) (a : Action) : Prop :=
  (∀ now ∈ s.1.promotionClock a, now.ms < due.ms → due.TextAgrees now) ∧
    ∀ now ∈ s.1.claimClock a, now.ms < due.ms → s.2 = false

instance (due : Date) (s : Processes × Bool) (a : Action) : Decidable (OnTime due s a) :=
  inferInstanceAs (Decidable (_ ∧ _))

/-- In every run whose steps meet `G`, for every instant that `parseSchedule`
accepts and every job stored for it: no pass with a clock before the instant
promotes, claims or sends the job. -/
def NeverEarly (platform : Platform) (G : Date → Processes × Bool → Action → Prop) : Prop :=
  ∀ {s₀ s u v : Processes} {k : Bool} {as bs : List Action} {value : String} {asked due : Date}
    {r : QueueJob} {id : WorkerId} {input : WorkerInput} {w : Worker},
    Scheduler.parseSchedule platform.dates value asked = .ok due →
    s₀.Start → (system platform).Run s₀ as s →
    s.db.job? r.id = some r → r.status = .SCHEDULED → r.scheduledAt = due.toISOString →
    ((reached due).observe (system platform)).RunWhere (G due) (s, false) bs (u, k) →
    G due (u, k) (.worker id input) → (system platform).step u (.worker id input) = some v →
    u.workers.lookup id = some w → w.now.ms < due.ms →
    ¬Promotes u v r.id ∧ (∀ job, u.claims (.worker id input) = some (id, job) → job.id ≠ r.id) ∧
      ∀ job, u.handsOver (.worker id input) = some (w, job) → job.id ≠ r.id

/-! ## Who promotes -/

/-- Only a worker that is promoting makes a job `PENDING`, and only when the
text of the schedule is at most that of its clock. -/
theorem promoted_by {id : Nat} {r r' : QueueJob} (h : (system platform).step s a = some t)
    (found : s.db.job? id = some r) (waiting : r.status ≠ .PENDING)
    (found' : t.db.job? id = some r') (promoted : r'.status = .PENDING) :
    ∃ now, s.promotionClock a = some now ∧ r.scheduledAt ≤ now.toISOString := by
  have changed : r' ≠ r := by
    rintro rfl
    exact waiting promoted
  rcases step_db h with same | ⟨op, reply, commits, ran⟩
  · rw [same, found] at found'
    exact absurd (Option.some.inj found').symm changed
  have effect := Op.run_effect ran
  rw [effect.job? found] at found'
  have written := Option.some.inj found'
  by_cases selected : op.selects s.db r
  · rw [Op.onRow, if_pos selected] at written
    obtain ⟨status, target, -⟩ := effect.legal r (Database.mem_of_job? found).1 selected
    have pending : status = .PENDING := by
      rw [← promoted, ← written, Op.writes_status target]
    subst pending
    cases commits with
    | @worker wid input w op found₂ turn fails =>
      cases QueueWorker.issues_of_turn turn with
      | promote phase =>
        simp only [Op.selects, due, Bool.and_eq_true, decide_eq_true_eq] at selected
        exact ⟨w.now, by simp only [promotionClock, found₂, phase], selected.2⟩
      | cancel | claim | forbid => cases target
      | transition _ _ _ outcome =>
        cases target
        exact absurd outcome (by decide)
      | other none =>
        rw [none] at target
        cases target
    | recovery => cases target
    | enqueue found₂ turn =>
      rw [(MessageService.target_of_turn turn).1] at target
      cases target
    | command command now => cases command <;> cases target
  · rw [Op.onRow, if_neg selected] at written
    exact absurd written.symm changed

theorem claimClock_of_claiming {id : WorkerId} {input : WorkerInput} {w : Worker}
    (found : s.workers.lookup id = some w) (claiming : w.phase = .claiming) :
    s.claimClock (.worker id input) = some w.now := by
  simp only [claimClock, found, claiming]

/-! ## The invariant of a scheduled job -/

/-- A job scheduled for `due`: until a pass has promoted at or after that
instant it waits or is cancelled, and only passes of later clocks hold it. -/
structure Waiting (due : Date) (id : Nat) (s : Processes) (k : Bool) : Prop where
  row : ∃ r, s.db.job? id = some r ∧ r.scheduledAt = due.toISOString ∧
    (k = false → r.status = .SCHEDULED ∨ r.status = .CANCELLED)
  hands : ∀ wid w job, s.workers.lookup wid = some w → w.phase.working = some job →
    job.id = id → due.ms ≤ w.now.ms

theorem Waiting.not_early {due : Date} {id : Nat} {k : Bool} (h : Waiting due id s k)
    (onTime : OnTime due (s, k) a) {now : Date} (promoting : s.promotionClock a = some now)
    {r : QueueJob} (found : s.db.job? id = some r)
    (passes : r.scheduledAt ≤ now.toISOString) : due.ms ≤ now.ms := by
  obtain ⟨row, hrow, scheduledAt, -⟩ := h.row
  rw [found] at hrow
  cases hrow
  by_contra early
  rw [scheduledAt] at passes
  exact early (Date.le_of_toISOString_le (onTime.1 now promoting (by omega)) passes)

theorem Waiting.claimed {due : Date} {id : Nat} {k : Bool} (h : Waiting due id s k)
    (onTime : OnTime due (s, k) a) {now : Date} (claiming : s.claimClock a = some now)
    {reference : Option String} {dryRunOnly : Bool} {job : QueueJob} {db : Database}
    (ran : claim s.db now.toISOString reference dryRunOnly = .ok (some job, db))
    (same : job.id = id) : due.ms ≤ now.ms := by
  obtain ⟨row, found, -, unpromoted⟩ := h.row
  rw [← same] at found
  have status := claimed_status ran found
  by_contra early
  rcases unpromoted (onTime.2 now claiming (by omega)) with scheduled | cancelled
  · rw [scheduled] at status
    simp only [reduceCtorEq, or_self] at status
  · rw [cancelled] at status
    simp only [reduceCtorEq, or_self] at status

theorem Waiting.step {due : Date} {id : Nat} {k : Bool} (h : Waiting due id s k)
    (wellHeld : s.WellHeld) (onTime : OnTime due (s, k) a)
    (step : (system platform).step s a = some t) :
    Waiting due id t ((reached due).next k s a) := by
  obtain ⟨r, found, scheduledAt, unpromoted⟩ := h.row
  constructor
  · rcases mover wellHeld step found with same | ⟨r', found', identity, legal, -⟩
    · refine ⟨r, same, scheduledAt, fun unreached => unpromoted ?_⟩
      exact (Bool.or_eq_false_iff.mp unreached).1
    · refine ⟨r', found', identity.scheduledAt ▸ scheduledAt, fun unreached => ?_⟩
      obtain ⟨unreached, clock⟩ := Bool.or_eq_false_iff.mp unreached
      rcases unpromoted unreached with waiting | cancelled
      · rw [waiting] at legal
        rcases List.mem_cons.mp legal with promoted | cancelled
        · exfalso
          obtain ⟨now, promoting, passes⟩ :=
            promoted_by step found (by rw [waiting]; decide) found' promoted
          have reached := h.not_early onTime promoting found passes
          rw [promoting, Option.any_some, decide_eq_false_iff_not] at clock
          exact clock reached
        · exact Or.inr (List.mem_singleton.mp cancelled)
      · rw [cancelled] at legal
        cases legal
  · intro wid w' job found' working' same
    rcases held_after step found' working' with ⟨w, found₂, working, -, now⟩ |
      ⟨w, input, found₂, rfl, claiming, -, -, -, now, ran⟩
    · rw [now]
      exact h.hands wid w job found₂ working same
    · rw [now]
      exact h.claimed onTime (claimClock_of_claiming found₂ claiming) ran same

/-- **No delivery before the scheduled instant**, where the clocks and the
schedule are `OnTime`. -/
theorem never_early (platform : Platform) : NeverEarly platform OnTime := by
  intro s₀ s u v k as bs value asked due r id input w _ start before stored scheduled text after
    onTime step found early
  have wellHeld := WellHeld.of_run start before
  have fresh : Waiting due r.id s false := by
    refine ⟨⟨r, stored, text, fun _ => Or.inl scheduled⟩, ?_⟩
    -- a job in hand has left the queue, so nobody holds a scheduled one
    intro wid w job found working same
    obtain ⟨row, hrow, -, started⟩ := (wellHeld.held found working).row
    rw [same, stored] at hrow
    cases hrow
    rw [scheduled] at started
    exact absurd started (by decide)
  obtain ⟨wellHeld', waiting⟩ : u.WellHeld ∧ Waiting due r.id u k :=
    after.invariant (I := fun s => s.1.WellHeld ∧ Waiting due r.id s.1 s.2)
      (fun h onTime step => by
        obtain ⟨step, next⟩ := Monitor.observe_step.mp step
        rw [next]
        exact ⟨h.1.step step, h.2.step h.1 onTime step⟩)
      ⟨wellHeld, fresh⟩
  refine ⟨?_, ?_, ?_⟩
  · rintro ⟨before, promoted, found₂, status, found₃, pending⟩
    obtain ⟨now, promoting, passes⟩ :=
      promoted_by step found₂ (by rw [status]; decide) found₃ pending
    have reached := waiting.not_early onTime promoting found₂ passes
    simp only [promotionClock, found] at promoting
    split at promoting
    · cases promoting
      omega
    · cases promoting
  · intro job claims same
    obtain ⟨input', w', action, found₂, claiming⟩ := claims_eq claims
    cases action
    rw [found] at found₂
    cases found₂
    unfold Processes.claims at claims
    simp only [found, claiming] at claims
    split at claims
    · next granted =>
      split at claims
      · next job' db ran =>
        cases claims
        have reached := waiting.claimed onTime (claimClock_of_claiming found claiming) ran same
        omega
      · cases claims
    · cases claims
  · intro job hands same
    obtain ⟨id', input', action, found₂, handing, -⟩ := handsOver_eq hands
    cases action
    have reached := waiting.hands id w job found₂ (by rw [handing]; rfl) same
    omega

/-- A job scheduled for later the same day, and the daemon's promotion before that. -/
def dailyJob : QueueJob :=
  { Example.job .SCHEDULED false with scheduledAt := (Example.clock 500000).toISOString }

def schedulePlatform (value : String) (due : Date) : Platform :=
  { Example.platform with dates := ⟨fun text => if text = value then some due else none⟩ }

def promotionRun : List Action :=
  [.startDaemon (AppConfig.default false) (Example.clock 0), Example.tick .daemon 1,
    Example.tick .daemon 2, Example.tick .daemon 3, Example.tick .daemon 4]

theorem never_early_daily :
    ∃ u v k, ((reached (Example.clock 500000)).observe
        (system (schedulePlatform "2026-09-21T14:21:40Z" (Example.clock 500000)))).RunWhere
        (OnTime (Example.clock 500000)) (Example.installation dailyJob, false) promotionRun (u, k) ∧
      (system (schedulePlatform "2026-09-21T14:21:40Z" (Example.clock 500000))).step u
        (Example.tick .daemon 5) = some v ∧ ¬Promotes u v 1 := by
  have trace : (((reached (Example.clock 500000)).observe
      (system (schedulePlatform "2026-09-21T14:21:40Z" (Example.clock 500000)))).execWhere
      (OnTime (Example.clock 500000)) (Example.installation dailyJob, false) promotionRun).any
        (fun u => decide (OnTime (Example.clock 500000) u (Example.tick .daemon 5)) &&
          ((system (schedulePlatform "2026-09-21T14:21:40Z" (Example.clock 500000))).step u.1
            (Example.tick .daemon 5)).isSome &&
          (u.1.workers.lookup .daemon).any fun w =>
            decide (w.now.ms < (Example.clock 500000).ms)) = true := by
    decide +kernel
  have accepted : Scheduler.parseSchedule
      (schedulePlatform "2026-09-21T14:21:40Z" (Example.clock 500000)).dates
      "2026-09-21T14:21:40Z" (Example.clock 0) = .ok (Example.clock 500000) := by decide +kernel
  have stored : (Example.installation dailyJob).db.job? dailyJob.id = some dailyJob := by
    decide +kernel
  obtain ⟨⟨u, k⟩, run, trace⟩ := (Option.any_eq_true _ _).mp trace
  rw [Bool.and_eq_true, Bool.and_eq_true, decide_eq_true_eq] at trace
  obtain ⟨v, step⟩ := Option.isSome_iff_exists.mp trace.1.2
  obtain ⟨w, found, early⟩ := (Option.any_eq_true _ _).mp trace.2
  rw [decide_eq_true_eq] at early
  have run := System.runWhere_of_execWhere run
  exact ⟨u, v, k, run, step,
    (never_early (schedulePlatform "2026-09-21T14:21:40Z" (Example.clock 500000)) accepted
      (Example.installation_start _) (.nil _) stored rfl rfl run trace.1.1 step found early).1⟩

def farInstant : Date := ⟨253402300800000, by decide⟩

def farJob : QueueJob :=
  { Example.job .SCHEDULED false with scheduledAt := farInstant.toISOString }

/-- **A schedule past the year 9999 is promoted at once**: its text starts with
a sign, which sorts before the digits of the present. -/
theorem promoted_early :
    ¬NeverEarly (schedulePlatform "+010000-01-01T00:00:00Z" farInstant) fun _ _ _ => True := by
  have trace : (((reached farInstant).observe
      (system (schedulePlatform "+010000-01-01T00:00:00Z" farInstant))).execWhere
      (fun _ _ => True) (Example.installation farJob, false) promotionRun).any
        (fun u => ((system (schedulePlatform "+010000-01-01T00:00:00Z" farInstant)).step u.1
            (Example.tick .daemon 5)).any (fun v =>
              (u.1.db.job? 1).any (·.status = .SCHEDULED) &&
              (v.db.job? 1).any (·.status = .PENDING)) &&
          (u.1.workers.lookup .daemon).any fun w => decide (w.now.ms < farInstant.ms)) = true := by
    decide +kernel
  intro claim
  obtain ⟨⟨u, k⟩, run, trace⟩ := (Option.any_eq_true _ _).mp trace
  rw [Bool.and_eq_true] at trace
  obtain ⟨v, step, moved⟩ := (Option.any_eq_true _ _).mp trace.1
  rw [Bool.and_eq_true] at moved
  obtain ⟨r, found, scheduled⟩ := (Option.any_eq_true _ _).mp moved.1
  obtain ⟨r', found', pending⟩ := (Option.any_eq_true _ _).mp moved.2
  obtain ⟨w, holder, early⟩ := (Option.any_eq_true _ _).mp trace.2
  rw [decide_eq_true_eq] at scheduled pending early
  have accepted : Scheduler.parseSchedule
      (schedulePlatform "+010000-01-01T00:00:00Z" farInstant).dates
      "+010000-01-01T00:00:00Z" (Example.clock 0) = .ok farInstant := by decide +kernel
  have stored : (Example.installation farJob).db.job? farJob.id = some farJob := by
    decide +kernel
  have never := claim accepted (Example.installation_start _) (.nil _) stored rfl rfl
    (System.runWhere_of_execWhere run) trivial step holder early
  exact never.1 ⟨r, r', found, scheduled, found', pending⟩

end Processes

end WhatsappBot
