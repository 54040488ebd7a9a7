import WhatsappBot.Runtime.Steps

/-!
# Jobs in hand

What is true of every job that a live worker holds, in every state that any
run reaches: the snapshot was taken at the claim, the row is still there with
the same identity and past the queue, a dry-run worker holds dry-run jobs only
and the destination is known.
-/

namespace WhatsappBot

open Lib.SharedStore Lib.Transition JobRepository

/-- No status change leads back into `PENDING` or `SCHEDULED`, save promotion. -/
theorem JobStatus.started_of_transition {current target : JobStatus}
    (legal : target ∈ current.transitions) (started : current ∉ [PENDING, SCHEDULED]) :
    target ∉ [PENDING, SCHEDULED] := by
  cases current <;> cases target <;> revert legal started <;> decide

/-- A job that a worker holds. -/
structure Held (db : Database) (w : Worker) (job : QueueJob) : Prop where
  snapshot : job.status = .PROCESSING
  intent : w.config.dryRun = true → job.dryRun = true
  row : ∃ row, db.job? job.id = some row ∧ QueueJob.SameIdentity job row ∧
    row.status ∉ [.PENDING, .SCHEDULED]
  destination : ∃ d ∈ db.destinations.rows, d.jid = job.destinationJid

namespace Held

variable {db db' : Database} {w w' : Worker} {job : QueueJob} {op : Op}

theorem effect (h : Held db w job) (e : op.Effect db db') : Held db' w job where
  snapshot := h.snapshot
  intent := h.intent
  row := by
    obtain ⟨row, found, same, started⟩ := h.row
    refine ⟨_, e.job? found, same.trans (op.onRow_identity db row), ?_⟩
    rcases e.status (Database.mem_of_job? found).1 with unchanged | ⟨s, -, legal, status⟩
    · rw [unchanged]
      exact started
    · rw [status]
      exact JobStatus.started_of_transition legal started
  destination := by
    obtain ⟨d, hd, hjid⟩ := h.destination
    obtain ⟨d', hd', hjid'⟩ := e.allowlist.persists d hd
    exact ⟨d', hd', hjid'.trans hjid⟩

theorem settings (h : Held db w job) (same : w'.config = w.config) : Held db w' job where
  snapshot := h.snapshot
  intent := same ▸ h.intent
  row := h.row
  destination := h.destination

theorem of_claim (e : (Op.claim w.now.toISOString w.reference w.config.dryRun).Effect db db')
    (ran : claim db w.now.toISOString w.reference w.config.dryRun = .ok (some job, db')) :
    Held db' w job := by
  obtain ⟨row, -, claimable, rfl, found'⟩ := claim_some ran
  refine ⟨rfl, ?_, ⟨_, found', .refl _, ?_⟩, ?_⟩
  · exact fun restricted => (claimable_intent claimable restricted : row.dryRun = true)
  · change JobStatus.PROCESSING ∉ _
    decide
  · obtain ⟨d, hd, hjid⟩ := claimable_destination claimable
    obtain ⟨d', hd', hjid'⟩ := e.allowlist.persists d hd
    exact ⟨d', hd', hjid'.trans hjid⟩

theorem mem_row (h : Held db w job) :
    ∃ row ∈ db.jobs.rows, db.job? job.id = some row ∧ QueueJob.SameIdentity job row := by
  obtain ⟨row, found, same, -⟩ := h.row
  exact ⟨row, (Database.mem_of_job? found).1, found, same⟩

theorem selects (h : Held db w job) {target : JobStatus} {options : TransitionOptions}
    {now : Timestamp} (r : QueueJob) :
    (Op.transition job.uuid.text target options now).selects db r = decide (r.id = job.id) := by
  obtain ⟨row, hrow, -, same⟩ := h.mem_row
  rw [Op.selects_uuid hrow same.uuid, same.id]

theorem normalized (h : Held db w job) : '@' ∈ job.destinationJid.toList := by
  obtain ⟨d, -, hjid⟩ := h.destination
  rw [← hjid]
  exact d.normalized

end Held

namespace Processes

/-- What is true of the workers of every reachable state. -/
structure WellHeld (s : Processes) : Prop where
  transport : ∀ {id w}, s.workers.lookup id = some w →
    (w.transport = .dryRun ↔ w.config.dryRun = true)
  cli : ∀ {n w}, s.workers.lookup (.cli n) = some w → w.config.dryRun = true
  held : ∀ {id w job}, s.workers.lookup id = some w → w.phase.working = some job →
    Held s.db w job

variable {platform : Platform} {s t : Processes} {a : Action}

theorem Start.wellHeld (h : s.Start) : s.WellHeld := by
  constructor
  · intro id w found
    rw [h.1, AList.lookup_empty] at found
    cases found
  · intro n w found
    rw [h.1, AList.lookup_empty] at found
    cases found
  · intro id w job found
    rw [h.1, AList.lookup_empty] at found
    cases found

/-- The job a worker holds after an action was in its hands before, or the
action is its claim. -/
theorem held_after {id : WorkerId} {w' : Worker} {job : QueueJob}
    (h : (system platform).step s a = some t) (found : t.workers.lookup id = some w')
    (working : w'.phase.working = some job) :
    (∃ w, s.workers.lookup id = some w ∧ w.phase.working = some job ∧ w'.config = w.config ∧
      w'.now = w.now) ∨
    (∃ w input, s.workers.lookup id = some w ∧ a = .worker id input ∧ w.phase = .claiming ∧
      input.fails = false ∧ w'.phase = .pacing job ∧ w'.config = w.config ∧ w'.now = w.now ∧
      claim s.db w.now.toISOString w.reference w.config.dryRun = .ok (some job, t.db)) := by
  cases worker_after h found with
  | kept found => exact Or.inl ⟨w', found, working, rfl, rfl⟩
  | @turned input w action found step =>
    obtain ⟨advance, now⟩ := QueueWorker.advance step working
    have settings := QueueWorker.settings_of_step step
    rcases advance.working working with working | ⟨claiming, pacing, granted, ran⟩
    · exact Or.inl ⟨w, found, working, settings.config, now⟩
    · exact Or.inr
        ⟨w, input, found, action, claiming, granted, pacing, settings.config, now, ran⟩
  | @stopped w action before worker =>
    subst worker
    exact Or.inl ⟨w, before, working, rfl, rfl⟩
  | daemon action party worker =>
    subst worker
    cases working
  | cli action party dryRun worker =>
    subst worker
    cases working

theorem WellHeld.step (h : s.WellHeld) (step : (system platform).step s a = some t) :
    t.WellHeld := by
  have keeps : ∀ {w job}, Held s.db w job → Held t.db w job := by
    intro w job held
    rcases step_effect step with same | ⟨op, -, effect⟩
    · rw [same]
      exact held
    · exact held.effect effect
  constructor
  · intro id w' found
    cases worker_after step found with
    | kept found => exact h.transport found
    | turned action found turned =>
      have settings := QueueWorker.settings_of_step turned
      rw [settings.transport, settings.config]
      exact h.transport found
    | stopped action before worker =>
      subst worker
      have unchanged := h.transport before
      exact unchanged
    | @daemon config now action party worker =>
      subst worker
      cases hdry : config.dryRun <;> simp only [daemonWorker, hdry] <;> decide
    | @cli n config reference now action party dryRun worker =>
      subst worker
      simp only [cliWorker, dryRun]
  · intro n w' found
    cases worker_after step found with
    | kept found => exact h.cli found
    | turned action found turned =>
      rw [(QueueWorker.settings_of_step turned).config]
      exact h.cli found
    | stopped action before worker =>
      subst worker
      have unchanged := h.cli before
      exact unchanged
    | daemon action party worker => cases party
    | cli action party dryRun worker =>
      subst worker
      exact dryRun
  · intro id w' job found working
    rcases held_after step found working with ⟨w, found, working, config, -⟩ |
      ⟨w, input, found, rfl, claiming, -, -, config, -, ran⟩
    · exact (keeps (h.held found working)).settings config
    · have committed : (Op.claim w.now.toISOString w.reference w.config.dryRun).run s.db =
          .ok ({ job := some job }, t.db) := by
        simp only [Op.run, ran, Except.map]
      exact (Held.of_claim (Op.run_effect committed) ran).settings config

theorem settling_result {w w' : Worker} {input : WorkerInput} {db db' : Database}
    {job : QueueJob} {result : SendResult}
    (step : (QueueWorker.client platform.dates).step store w input db = (w', db'))
    (settling : w'.phase = .settling job result) : result.dryRun = w'.simulates job := by
  have working : w'.phase.working = some job := by rw [settling]; rfl
  obtain ⟨advance, -⟩ := QueueWorker.advance step working
  have settings := QueueWorker.settings_of_step step
  have simulates : w'.simulates job = w.simulates job := by
    simp only [Worker.simulates, settings.transport]
  rw [simulates]
  generalize w'.phase = phase at advance settling
  cases advance with
  | simulated before simulated =>
    cases settling
    exact simulated.symm
  | accepted before live =>
    cases settling
    exact live.symm
  | @decided held error before =>
    have taken := QueueWorker.branches w input held error
    rw [settling] at taken
    cases taken
  | claimed | stopped | paced | refused | allowed | handed | unsendable | rejected | recorded
  | recordedDryRun | noted | interrupted | forbidden => cases settling

/-- The result of a send says what kind of transport made it. -/
def TrueResults (s : Processes) : Prop :=
  ∀ id w job result, s.workers.lookup id = some w → w.phase = .settling job result →
    result.dryRun = w.simulates job

theorem Start.trueResults (h : s.Start) : s.TrueResults := by
  intro id w job result found
  rw [h.1, AList.lookup_empty] at found
  cases found

theorem TrueResults.step (h : s.TrueResults) (step : (system platform).step s a = some t) :
    t.TrueResults := by
  intro id w' job result found' settling
  cases worker_after step found' with
  | kept found => exact h id w' job result found settling
  | turned action found turned => exact settling_result turned settling
  | @stopped w action found worker =>
    subst worker
    exact h id w job result found settling
  | daemon action party worker =>
    subst worker
    cases settling
  | cli action party dryRun worker =>
    subst worker
    cases settling

theorem wellHeld_preserved (G : Processes → Action → Prop) :
    (system platform).Preserves G WellHeld :=
  fun h _ step => h.step step

theorem WellHeld.of_run {G : Processes → Action → Prop} {as : List Action} (start : s.Start)
    (run : (system platform).RunWhere G s as t) : t.WellHeld :=
  run.invariant (wellHeld_preserved G) start.wellHeld

theorem TrueResults.of_run {G : Processes → Action → Prop} {as : List Action} (start : s.Start)
    (run : (system platform).RunWhere G s as t) : t.TrueResults :=
  run.invariant (fun h _ step => h.step step) start.trueResults

end Processes

end WhatsappBot
