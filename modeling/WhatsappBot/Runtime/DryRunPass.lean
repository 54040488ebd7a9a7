import WhatsappBot.Runtime.Holding

/-!
# A dry-run pass and the live queue

One call of `processOnce`, alone on the database but for requests to stop. The
claim of a dry-run worker is restricted to dry-run jobs; the promotion and the
cancellation before it are not, and these two statements are all that a
dry-run pass does to live jobs (`dry_run_pass_spares_live`).
-/

namespace WhatsappBot

open Lib.SharedStore Lib.Transition JobRepository

/-! ## Passes -/

/-- `processOnce` has resolved or rejected. -/
def Phase.finished : Phase → Bool
  | returned _ | thrown _ => true
  | _ => false

inductive PassAction where
  | turn (input : WorkerInput)
  | requestStop

namespace QueueWorker

/-- A worker alone with the database. -/
def alone (parser : DateParser) : System (Worker × Database) PassAction where
  step
    | (w, db), .turn input => some ((client parser).step store w input db)
    | (w, db), .requestStop => some ({ w with stopping := true }, db)

/-- A pass that has not come to its end. -/
def Unfinished (state : Worker × Database) (_ : PassAction) : Prop :=
  state.1.phase.finished = false

instance (state : Worker × Database) (a : PassAction) : Decidable (Unfinished state a) :=
  inferInstanceAs (Decidable (_ = _))

/-- A call of `processOnce`: its first turn, and the others up to its end. -/
structure Pass (parser : DateParser) (w : Worker) (db : Database) (begin : WorkerInput)
    (actions : List PassAction) (w' : Worker) (db' : Database) : Prop where
  ready : w.phase = .ready
  called : (w.looping && w.stopping) = false
  run : (alone parser).RunWhere Unfinished ((client parser).step store w begin db) actions
    (w', db')
  finished : w'.phase.finished = true

end QueueWorker

/-- The inputs of the turns of a pass. -/
def turns : List PassAction → List WorkerInput
  | [] => []
  | .turn input :: actions => input :: turns actions
  | .requestStop :: actions => turns actions

/-- Every row of a live job is the same in all its columns. -/
def LiveRowsKept (db db' : Database) : Prop :=
  ∀ id r, db.job? id = some r → r.dryRun = false → db'.job? id = some r

/-- Neither of the statements that a pass runs before its claim touches a live
row: no live job is due for promotion at the clock of the pass, and none waits
for a destination that cannot be sent to; or the statement fails. -/
def SparesLive (db : Database) (clock : Date) : List WorkerInput → Prop
  | promotion :: later =>
    promotion.fails ∨
      (∀ r ∈ db.jobs.rows, r.dryRun = false → due clock.toISOString r = false) ∧
        match later with
        | cancellation :: _ =>
          cancellation.fails ∨ ∀ r ∈ db.jobs.rows, r.dryRun = false → disabled db r = false
        | [] => True
  | [] => True

namespace LiveRowsKept

variable {db db' db'' : Database}

theorem refl (db : Database) : LiveRowsKept db db := fun _ _ found _ => found

theorem trans (h : LiveRowsKept db db') (h' : LiveRowsKept db' db'') : LiveRowsKept db db'' :=
  fun id r found live => h' id r (h id r found live) live

/-- An operation keeps the live rows that it does not select. -/
theorem of_effect {op : Op} (effect : op.Effect db db')
    (spares : ∀ r ∈ db.jobs.rows, r.dryRun = false → op.selects db r = false) :
    LiveRowsKept db db' := by
  intro id r found live
  have unselected := spares r (Database.mem_of_job? found).1 live
  rw [effect.job? found, Op.onRow, unselected]
  rfl

end LiveRowsKept

namespace QueueWorker

variable {parser : DateParser} {w w' : Worker} {i : WorkerInput} {db db' : Database}

/-! ## After the cancellation -/

/-- The phases of a dry-run pass from its claim on. -/
inductive Late : Phase → Prop where
  | claiming : Late .claiming
  | pacing (job : QueueJob) : Late (.pacing job)
  | releasing (job : QueueJob) : Late (.releasing job)
  | resolving (job : QueueJob) : Late (.resolving job)
  | refusing (job : QueueJob) (errorClass : DeliveryErrorClass) (message : String) :
    Late (.refusing job errorClass message)
  | handing (job : QueueJob) : Late (.handing job)
  | sending (job : QueueJob) : Late (.sending job)
  | settling (job : QueueJob) (result : SendResult) : Late (.settling job result)
  | noting (job : QueueJob) (result : SendResult) : Late (.noting job result)
  | connecting (job : QueueJob) (result : SendResult) : Late (.connecting job result)
  | handling (job : QueueJob) (error : AppError) : Late (.handling job (unexpectedFailure error))
  | retrying (job : QueueJob) (error : DeliveryError) (next : Date) :
    Late (.retrying job error next)
  | failing (job : QueueJob) (error : DeliveryError) : Late (.failing job error)
  | returned (processed : Bool) : Late (.returned processed)
  | thrown (error : AppError) : Late (.thrown error)

/-- A dry-run worker past the cancellation of its pass. -/
structure Simulating (w : Worker) (db : Database) : Prop where
  config : w.config.dryRun = true
  transport : w.transport = .dryRun
  phase : Late w.phase
  held : ∀ {job}, w.phase.working = some job → Held db w job

theorem late_of_move (transport : w.transport = .dryRun) (late : Late w.phase)
    (unfinished : w.phase.finished = false) (h : turn w i = .move w') : Late w'.phase := by
  unfold turn at h
  generalize phase : w.phase = phase at late unfinished h
  cases late with
  | claiming | releasing | resolving | refusing | settling | noting | retrying | failing => cases h
  | pacing job =>
    cases h
    rw [Worker.goto_phase]
    split
    · exact .releasing job
    · exact .resolving job
  | handing job =>
    cases h
    rw [Worker.goto_phase]
    split
    · exact .sending job
    · exact .handling job _
  | sending job =>
    cases h
    have simulates : w.simulates job = true := by simp only [Worker.simulates, transport]; rfl
    rw [Worker.goto_phase, simulates]
    exact .settling job _
  | connecting job result =>
    simp only at h
    split at h
    · cases h
    · cases h
      exact .returned true
  | handling job error =>
    cases h
    rw [Worker.goto_phase]
    rcases branch_unexpected w i job error with branch | branch | ⟨next, branch⟩
    · rw [branch]
      exact .failing job _
    · rw [branch]
      exact .thrown _
    · rw [branch]
      exact .retrying job _ next
  | returned | thrown => cases unfinished

theorem late_of_answer (late : Late w.phase) (reply : Reply) :
    Late (answered parser w i reply).phase := by
  unfold answered
  generalize phase : w.phase = phase at late
  cases late with
  | claiming =>
    simp only
    cases reply.job with
    | none => exact .returned false
    | some job => exact .pacing job
  | releasing | refusing | retrying | failing | connecting => exact .returned true
  | resolving job =>
    simp only [Worker.goto_phase]
    split
    · exact .refusing job _ _
    · split
      · exact .refusing job _ _
      · split
        · exact .refusing job _ _
        · exact .handing job
  | settling job result =>
    simp only [Worker.goto_phase]
    split
    · exact .connecting job result
    · exact .noting job result
  | noting job result => exact .connecting job result
  | pacing | handing | sending | handling | returned | thrown =>
    simp only [phase]
    constructor

theorem late_of_error (late : Late w.phase) (error : AppError) : Late (rejected w error).phase := by
  unfold rejected
  generalize phase : w.phase = phase at late
  cases late with
  | settling job | noting job | connecting job => exact .handling job error
  | claiming | pacing | releasing | resolving | refusing | handing | sending | handling | retrying
  | failing | returned | thrown => exact .thrown error

theorem late_of_step (transport : w.transport = .dryRun) (late : Late w.phase)
    (unfinished : w.phase.finished = false)
    (step : (client parser).step store w i db = (w', db')) : Late w'.phase := by
  rcases Client.step_cases step with ⟨move, -⟩ | ⟨_, error, -, -, rfl, -⟩ | ⟨_, reply, -, -, -, rfl⟩
  · exact late_of_move transport late unfinished move
  · exact late_of_error late error
  · exact late_of_answer late reply

/-- A late operation selects dry-run jobs only. -/
theorem Simulating.spares (h : Simulating w db) {op : Op} (issued : Issues w op) {r : QueueJob}
    (hr : r ∈ db.jobs.rows) (live : r.dryRun = false) : op.selects db r = false := by
  have late := h.phase
  cases issued with
  | promote phase | cancel _ phase | forbid _ phase =>
    rw [phase] at late
    cases late
  | claim phase =>
    simp only [Op.selects]
    cases selected : selectClaim db w.now.toISOString w.reference w.config.dryRun with
    | none => rfl
    | some row =>
      obtain ⟨hrow, claimable⟩ := mem_of_selectClaim selected
      simp only [stillClaimable, Bool.and_eq_false_iff, decide_eq_false_iff_not]
      refine Or.inl fun same => ?_
      rw [Database.eq_of_id_eq hr hrow same, claimable_intent claimable h.config] at live
      cases live
  | @transition job target options now working outcome =>
    have held := h.held working
    rw [held.selects, decide_eq_false_iff_not]
    intro same
    obtain ⟨row, hrow, -, identity⟩ := held.mem_row
    rw [Database.eq_of_id_eq hr hrow (same.trans identity.id), ← identity.dryRun,
      held.intent h.config] at live
    cases live
  | other target => exact Op.unselected_of_target target r

theorem Simulating.step (h : Simulating w db) (unfinished : w.phase.finished = false)
    (step : (client parser).step store w i db = (w', db')) :
    Simulating w' db' ∧ LiveRowsKept db db' := by
  have settings := settings_of_step step
  have late := late_of_step h.transport h.phase unfinished step
  have grown : LiveRowsKept db db' ∧ ∀ {job}, Held db w job → Held db' w' job := by
    rcases Client.step_cases step with ⟨-, rfl⟩ | ⟨_, _, -, -, -, rfl⟩ | ⟨op, reply, call, -, ran, -⟩
    · exact ⟨.refl _, fun held => held.settings settings.config⟩
    · exact ⟨.refl _, fun held => held.settings settings.config⟩
    · have effect := Op.run_effect ran
      refine ⟨.of_effect effect fun r hr live => h.spares (issues_of_turn call) hr live, ?_⟩
      exact fun held => (held.effect effect).settings settings.config
  refine ⟨⟨settings.config ▸ h.config, settings.transport ▸ h.transport, late, ?_⟩, grown.1⟩
  intro job working
  rcases (advance step working).1.working working with before | ⟨claiming, -, -, ran⟩
  · exact grown.2 (h.held before)
  · have committed : (Op.claim w.now.toISOString w.reference w.config.dryRun).run db =
        .ok ({ job := some job }, db') := by
      simp only [Op.run, ran, Except.map]
    exact (Held.of_claim (Op.run_effect committed) ran).settings settings.config

/-- From its claim on, a dry-run pass keeps every live row. -/
theorem Simulating.kept {state state' : Worker × Database} {actions : List PassAction}
    (run : (alone parser).RunWhere Unfinished state actions state')
    (h : Simulating state.1 state.2) : LiveRowsKept state.2 state'.2 := by
  induction run with
  | nil => exact .refl _
  | @cons s t u a _ unfinished step _ ih =>
    cases a with
    | turn input =>
      cases step
      obtain ⟨simulating, kept⟩ := h.step unfinished rfl
      exact kept.trans (ih simulating)
    | requestStop =>
      cases step
      exact ih ⟨h.config, h.transport, h.phase, fun working => (h.held working).settings rfl⟩

/-! ## Before the claim -/

/-- A pass that has not come to its end takes another turn; requests to stop
can come before it. -/
theorem next_turn {state state' : Worker × Database} {actions : List PassAction}
    (run : (alone parser).RunWhere Unfinished state actions state')
    (unfinished : state.1.phase.finished = false) (finished : state'.1.phase.finished = true) :
    ∃ w input later, SameSettings state.1 w ∧ w.phase = state.1.phase ∧ w.now = state.1.now ∧
      turns actions = input :: turns later ∧
      (alone parser).RunWhere Unfinished ((client parser).step store w input state.2) later
        state' := by
  induction run with
  | nil =>
    rw [unfinished] at finished
    cases finished
  | @cons s t u a later _ step rest ih =>
    cases a with
    | turn input =>
      cases step
      exact ⟨s.1, input, later, ⟨rfl, rfl, rfl, rfl⟩, rfl, rfl, rfl, rest⟩
    | requestStop =>
      cases step
      obtain ⟨w, input, later, settings, phase, now, heq, rest⟩ := ih unfinished finished
      exact ⟨w, input, later,
        ⟨settings.config, settings.transport, settings.looping, settings.reference⟩, phase, now,
        heq, rest⟩

/-- A pass at its end takes no further step. -/
theorem finished_stays {state state' : Worker × Database} {actions : List PassAction}
    (run : (alone parser).RunWhere Unfinished state actions state')
    (finished : state.1.phase.finished = true) : state' = state := by
  cases run with
  | nil => rfl
  | cons unfinished =>
    rw [Unfinished, finished] at unfinished
    cases unfinished

/-- From the cancellation on, a dry-run pass does no more to live rows than
the cancellation does. -/
theorem cancelled {state state' : Worker × Database} {actions : List PassAction}
    (run : (alone parser).RunWhere Unfinished state actions state')
    (cancelling : state.1.phase = .cancelling) (config : state.1.config.dryRun = true)
    (transport : state.1.transport = .dryRun) (finished : state'.1.phase.finished = true) :
    ∃ cancellation later, turns actions = cancellation :: later ∧
      (cancellation.fails = true ∧ state'.2 = state.2 ∨
        cancellation.fails = false ∧ ∃ now after,
          state.2.JobsUpdated after (disabled state.2) (QueueJob.cancelUnsent
            "Destination is disabled or no longer allows sending" now) ∧
          LiveRowsKept after state'.2) := by
  obtain ⟨w, input, later, settings, phase, -, heq, rest⟩ :=
    next_turn run (by rw [cancelling]; rfl) finished
  rw [cancelling] at phase
  refine ⟨input, turns later, heq, ?_⟩
  obtain ⟨n, after, ran⟩ := cancelDisabled_total state.2 input.wall.toISOString
  have call : turn w input = .call (.cancelDisabled input.wall.toISOString) := by
    simp only [turn, phase]
  have committed : (Op.cancelDisabled input.wall.toISOString).run state.2 =
      .ok ({ count := n }, after) := by
    simp only [Op.run, ran, Except.map]
  rcases total_step call ⟨_, _, committed⟩ with
    ⟨fails, error, step⟩ | ⟨granted, reply, after', committed', step⟩
  · rw [step] at rest
    have thrown : (rejected w error).phase = .thrown error := by
      simp only [rejected, phase, Worker.goto_phase]
    rw [finished_stays rest (by rw [thrown]; rfl)]
    exact Or.inl ⟨fails, rfl⟩
  · cases committed.symm.trans committed'
    have next : answered parser w input { count := n } = w.goto .claiming := by
      simp only [answered, phase]
    rw [step, next] at rest
    refine Or.inr ⟨granted, _, after, cancelDisabled_ok ran, Simulating.kept rest ?_⟩
    exact ⟨settings.config ▸ config, settings.transport ▸ transport, .claiming,
      fun working => by cases working⟩

/-- The promotion of a pass, and the pass from there on. -/
theorem promoted {state state' : Worker × Database} {actions : List PassAction}
    (run : (alone parser).RunWhere Unfinished state actions state')
    (promoting : state.1.phase = .promoting) (finished : state'.1.phase.finished = true) :
    ∃ promotion later, turns actions = promotion :: turns later ∧
      (promotion.fails = true ∧ state'.2 = state.2 ∨
        promotion.fails = false ∧ ∃ w after,
          state.2.JobsUpdated after (due state.1.now.toISOString)
            (applyPromotion state.1.now.toISOString) ∧
          w.phase = .cancelling ∧ SameSettings state.1 w ∧
          (alone parser).RunWhere Unfinished (w, after) later state') := by
  obtain ⟨w, input, later, settings, phase, now, heq, rest⟩ :=
    next_turn run (by rw [promoting]; rfl) finished
  rw [promoting] at phase
  refine ⟨input, later, heq, ?_⟩
  obtain ⟨n, after, ran⟩ := promoteDueScheduled_total state.2 state.1.now.toISOString
  have call : turn w input = .call (.promoteDueScheduled state.1.now.toISOString) := by
    simp only [turn, phase, now]
  have committed : (Op.promoteDueScheduled state.1.now.toISOString).run state.2 =
      .ok ({ count := n }, after) := by
    simp only [Op.run, ran, Except.map]
  rcases total_step call ⟨_, _, committed⟩ with
    ⟨fails, error, step⟩ | ⟨granted, reply, after', committed', step⟩
  · rw [step] at rest
    have thrown : (rejected w error).phase = .thrown error := by
      simp only [rejected, phase, Worker.goto_phase]
    rw [finished_stays rest (by rw [thrown]; rfl)]
    exact Or.inl ⟨fails, rfl⟩
  · cases committed.symm.trans committed'
    have next : answered parser w input { count := n } = w.goto .cancelling := by
      simp only [answered, phase]
    rw [step, next] at rest
    exact Or.inr ⟨granted, w.goto .cancelling, after, promoteDueScheduled_ok ran, rfl,
      ⟨settings.config, settings.transport, settings.looping, settings.reference⟩, rest⟩

end QueueWorker

/-! ## What a dry-run pass does to live jobs -/

section

variable {db db' : Database} {now : Timestamp} {p : QueueJob → Bool} {f : QueueJob → QueueJob}

/-- An update of dry-run jobs keeps the live rows and adds none. -/
theorem LiveRowsKept.of_updated (h : db.JobsUpdated db' p f)
    (identity : ∀ r, QueueJob.SameIdentity r (f r))
    (spares : ∀ r ∈ db.jobs.rows, r.dryRun = false → p r = false) :
    LiveRowsKept db db' ∧ ∀ r ∈ db'.jobs.rows, r.dryRun = false → r ∈ db.jobs.rows := by
  have rows : ∀ r ∈ db.jobs.rows, (if p r then f r else r) ∈ db'.jobs.rows := by
    intro r hr
    rw [h.rows]
    exact List.mem_map_of_mem hr
  constructor
  · intro id r found live
    obtain ⟨hr, rfl⟩ := Database.mem_of_job? found
    have hr' := rows r hr
    rw [spares r hr live] at hr'
    exact Database.job?_of_mem hr'
  · intro r' hr' live
    rw [h.rows] at hr'
    obtain ⟨r, hr, rfl⟩ := List.mem_map.mp hr'
    split
    · next selected =>
      rw [if_pos selected, ← (identity r).dryRun] at live
      rw [spares r hr live] at selected
      cases selected
    · exact hr

/-- A live row that an update selects is found rewritten wherever the rows of
the update are kept. -/
theorem rewritten_of_updated {db'' : Database} (h : db.JobsUpdated db' p f)
    (identity : ∀ r, QueueJob.SameIdentity r (f r)) (kept : LiveRowsKept db' db'') {r : QueueJob}
    (hr : r ∈ db.jobs.rows) (live : r.dryRun = false) (selected : p r) :
    db''.job? r.id = some (f r) := by
  have written : f r ∈ db'.jobs.rows := by
    rw [h.rows]
    exact List.mem_map.mpr ⟨r, hr, if_pos selected⟩
  rw [(identity r).id]
  exact kept (f r).id (f r) (Database.job?_of_mem written) ((identity r).dryRun ▸ live)

end

theorem applyPromotion_identity (now : Timestamp) (r : QueueJob) :
    QueueJob.SameIdentity r (applyPromotion now r) := by
  constructor <;> rfl

theorem cancelUnsent_identity (message : String) (now : Timestamp) (r : QueueJob) :
    QueueJob.SameIdentity r (r.cancelUnsent message now) := by
  constructor <;> rfl

/-- Jobs whose rows and destinations are the same are disabled alike. -/
theorem disabled_congr {db db' : Database} (h : db'.destinations = db.destinations)
    (r : QueueJob) : disabled db' r = disabled db r := by
  simp only [disabled, Database.destinationSatisfies, h]

/-- The pass from its cancellation on: what it makes of any live row, and when
it keeps all of them. -/
theorem cancellation_spares_live {parser : DateParser} {w w' : Worker} {db db' : Database}
    {actions : List PassAction}
    (run : (QueueWorker.alone parser).RunWhere QueueWorker.Unfinished (w, db) actions (w', db'))
    (cancelling : w.phase = .cancelling) (config : w.config.dryRun = true)
    (transport : w.transport = .dryRun) (finished : w'.phase.finished = true) :
    ∃ cancellation later, turns actions = cancellation :: later ∧
      (∀ r ∈ db.jobs.rows, r.dryRun = false →
        ∃ r', db'.job? r.id = some r' ∧ (r' = r ∨ r'.status = .CANCELLED)) ∧
      (LiveRowsKept db db' ↔ cancellation.fails = true ∨
        ∀ r ∈ db.jobs.rows, r.dryRun = false → disabled db r = false) := by
  obtain ⟨cancellation, later, heq, outcome⟩ :=
    QueueWorker.cancelled run cancelling config transport finished
  refine ⟨cancellation, later, heq, ?_⟩
  rcases outcome with ⟨fails, same⟩ | ⟨granted, now, after, updated, kept⟩
  · change db' = db at same
    subst same
    refine ⟨fun r hr _ => ⟨r, Database.job?_of_mem hr, Or.inl rfl⟩, ?_⟩
    simp only [LiveRowsKept.refl, fails, true_or]
  · have rewritten : ∀ {r}, r ∈ db.jobs.rows → r.dryRun = false → disabled db r = true →
        ∃ r', db'.job? r.id = some r' ∧ r'.status = .CANCELLED := fun hr live selected =>
      ⟨_, rewritten_of_updated updated (cancelUnsent_identity _ now) kept hr live selected, rfl⟩
    constructor
    · intro r hr live
      by_cases selected : disabled db r
      · obtain ⟨r', found, cancelled⟩ := rewritten hr live selected
        exact ⟨r', found, Or.inr cancelled⟩
      · have hr' : r ∈ after.jobs.rows := by
          rw [updated.rows]
          exact List.mem_map.mpr ⟨r, hr, if_neg selected⟩
        exact ⟨r, kept r.id r (Database.job?_of_mem hr') live, Or.inl rfl⟩
    · simp only [granted, Bool.false_eq_true, false_or]
      constructor
      · intro unchanged r hr live
        by_contra selected
        rw [Bool.not_eq_false] at selected
        obtain ⟨r', found, cancelled⟩ := rewritten hr live selected
        rw [unchanged r.id r (Database.job?_of_mem hr) live] at found
        cases found
        simp only [disabled, cancelled, Bool.and_eq_true] at selected
        exact absurd selected.2 (by decide)
      · intro enabled
        exact (LiveRowsKept.of_updated updated (cancelUnsent_identity _ now) enabled).1.trans kept

theorem QueueWorker.Pass.began {parser : DateParser} {w w' : Worker} {db db' : Database}
    {begin : WorkerInput} {actions : List PassAction}
    (pass : QueueWorker.Pass parser w db begin actions w' db') (transport : w.transport = .dryRun) :
    (alone parser).RunWhere Unfinished (w.begin begin.clock, db) actions (w', db') := by
  have turn : (client parser).turn w begin = .move (w.begin begin.clock) := by
    change QueueWorker.turn w begin = _
    simp only [QueueWorker.turn, pass.ready, pass.called, transport, Transport.name,
      Bool.false_eq_true, if_false, if_true]
  have start : (client parser).step store w begin db = (w.begin begin.clock, db) := by
    simp only [Client.step, turn]
  exact start ▸ pass.run

/-- **A dry-run pass leaves live jobs alone exactly when the two statements
before its claim do.** -/
theorem dry_run_pass_spares_live (parser : DateParser) {w w' : Worker} {db db' : Database}
    {begin : WorkerInput} {actions : List PassAction}
    (pass : QueueWorker.Pass parser w db begin actions w' db') (config : w.config.dryRun = true)
    (transport : w.transport = .dryRun) :
    LiveRowsKept db db' ↔ SparesLive db begin.clock (turns actions) := by
  obtain ⟨promotion, later, heq, ⟨fails, same⟩ | ⟨granted, w₁, after, promoted, cancelling,
    settings, rest⟩⟩ := QueueWorker.promoted (pass.began transport) rfl pass.finished
  · change db' = db at same
    subst same
    simp only [LiveRowsKept.refl, heq, SparesLive, fails, true_or]
  obtain ⟨cancellation, last, heq', reached, spares⟩ :=
    cancellation_spares_live rest cancelling (settings.config ▸ config)
      (settings.transport ▸ transport) pass.finished
  simp only [heq, heq', SparesLive, granted, Bool.false_eq_true, false_or]
  by_cases undue : ∀ r ∈ db.jobs.rows, r.dryRun = false →
      due begin.clock.toISOString r = false
  · obtain ⟨kept, old⟩ := LiveRowsKept.of_updated promoted (applyPromotion_identity _) undue
    have new : ∀ r ∈ db.jobs.rows, r.dryRun = false → r ∈ after.jobs.rows := fun r hr live =>
      (Database.mem_of_job? (kept r.id r (Database.job?_of_mem hr) live)).1
    have congr := disabled_congr promoted.destinations
    have back : LiveRowsKept db db' ↔ LiveRowsKept after db' := by
      refine ⟨fun unchanged id r found live => ?_, kept.trans⟩
      obtain ⟨hr, rfl⟩ := Database.mem_of_job? found
      exact unchanged r.id r (Database.job?_of_mem (old r hr live)) live
    rw [back, spares]
    refine ⟨fun h => ⟨undue, h.imp_right fun enabled r hr live => ?_⟩,
      fun h => h.2.imp_right fun enabled r hr live => ?_⟩
    · rw [← congr r]
      exact enabled r (new r hr live) live
    · rw [congr r]
      exact enabled r (old r hr live) live
  · -- a promoted job is never `SCHEDULED` again
    simp only [undue, false_and, iff_false]
    intro kept
    obtain ⟨r, dueRow⟩ := not_forall.mp undue
    rw [Classical.not_imp, Classical.not_imp, Bool.not_eq_false] at dueRow
    obtain ⟨hr, live, selected⟩ := dueRow
    have hr' : applyPromotion begin.clock.toISOString r ∈ after.jobs.rows := by
      rw [promoted.rows]
      exact List.mem_map.mpr ⟨r, hr, if_pos selected⟩
    obtain ⟨r', found, status⟩ := reached _ hr' live
    change db'.job? r.id = some r' at found
    rw [kept r.id r (Database.job?_of_mem hr) live] at found
    cases found
    simp only [due, Bool.and_eq_true, decide_eq_true_eq] at selected
    rcases status with same | cancelled
    · have pending := selected.1
      rw [same] at pending
      cases pending
    · rw [selected.1] at cancelled
      cases cancelled

/-- An uneventful turn of a pass. -/
def passTurn (ms : Fin 1000000) : PassAction :=
  .turn { clock := Example.clock ms, wall := Example.clock ms }

def simulator : Worker := cliWorker (AppConfig.default true) none (Example.clock 0)

/-- Promotion, cancellation and a claim that finds nothing. -/
def idlePass : List PassAction := [passTurn 2, passTurn 3, passTurn 4]

/-- A pass over a live job that waits to be claimed. -/
theorem dry_run_pass_spares_live_pending :
    ∃ w db, QueueWorker.Pass Example.platform.dates simulator
        (Example.installation (Example.job .PENDING false)).db
        { clock := Example.clock 1, wall := Example.clock 1 } idlePass w db ∧
      LiveRowsKept (Example.installation (Example.job .PENDING false)).db db := by
  have trace : (((QueueWorker.alone Example.platform.dates).execWhere QueueWorker.Unfinished
      ((QueueWorker.client Example.platform.dates).step store simulator
        { clock := Example.clock 1, wall := Example.clock 1 }
        (Example.installation (Example.job .PENDING false)).db) idlePass).any
      fun state => state.1.phase.finished) = true := by
    decide +kernel
  obtain ⟨⟨w, db⟩, run, finished⟩ := (Option.any_eq_true _ _).mp trace
  have pass : QueueWorker.Pass Example.platform.dates simulator _ _ idlePass w db :=
    ⟨rfl, rfl, System.runWhere_of_execWhere run, finished⟩
  refine ⟨w, db, pass, (dry_run_pass_spares_live Example.platform.dates pass rfl rfl).mpr ?_⟩
  exact Or.inr ⟨by decide +kernel, Or.inr (by decide +kernel)⟩

/-- No dry-run pass changes a live row. -/
def DryRunPassesSpareLive (parser : DateParser) : Prop :=
  ∀ w db begin actions w' db', QueueWorker.Pass parser w db begin actions w' db' →
    w.config.dryRun = true → w.transport = .dryRun → LiveRowsKept db db'

/-- A dry-run pass promotes a live job that is due. -/
theorem dry_run_pass_promotes_live : ¬DryRunPassesSpareLive Example.platform.dates := by
  have trace : (((QueueWorker.alone Example.platform.dates).execWhere QueueWorker.Unfinished
      ((QueueWorker.client Example.platform.dates).step store simulator
        { clock := Example.clock 1, wall := Example.clock 1 }
        (Example.installation (Example.job .SCHEDULED false)).db) idlePass).any
      fun state => state.1.phase.finished &&
        (state.2.job? 1).any fun r => decide (r.status = .PENDING)) = true := by
    decide +kernel
  intro claim
  obtain ⟨⟨w, db⟩, run, trace⟩ := (Option.any_eq_true _ _).mp trace
  rw [Bool.and_eq_true] at trace
  obtain ⟨r, found, pending⟩ := (Option.any_eq_true _ _).mp trace.2
  have kept := claim _ _ _ idlePass w db
    ⟨rfl, rfl, System.runWhere_of_execWhere run, trace.1⟩ rfl rfl 1
    (Example.job .SCHEDULED false) rfl rfl
  rw [show db.job? 1 = some r from found] at kept
  cases kept
  cases of_decide_eq_true pending

end WhatsappBot
