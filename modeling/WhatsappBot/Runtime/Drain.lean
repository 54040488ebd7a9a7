import WhatsappBot.Lib.Descent
import WhatsappBot.Runtime.OnePass

/-!
# The loop comes to rest

`QueueWorker.run` alone on a database that does not fail. Every claim spends an
attempt of its job, and a job whose attempts are spent is not queued again
unless the worker stops; so what the queue can still demand of the worker
(`Database.demand`) falls with every claim, and after boundedly many turns,
whatever the transport does, the worker finds nothing to claim, is paused or
has ended.
-/

namespace WhatsappBot

open Lib.Descent Lib.Relational Lib.SharedStore JobRepository

/-! ## What the queue demands -/

/-- A job is not claimed more often than this: once for each attempt left, and once
more, since a pause for authentication queues a job again whose attempts are spent. -/
def QueueJob.demand (job : QueueJob) : Nat :=
  if job.status ∈ JobStatus.unsent then job.maxAttempts - job.attemptCount + 1 else 0

def Database.demand (db : Database) : Nat := (db.jobs.rows.map QueueJob.demand).sum

section

variable {db db' : Database} {now : Timestamp} {op : Op} {job : QueueJob}

theorem Database.demand_same (h : db'.jobs = db.jobs) : db'.demand = db.demand := by
  rw [Database.demand, h]
  rfl

theorem Op.Effect.demand (effect : op.Effect db db') (inserted : op.inserted db = []) :
    db'.demand = (db.jobs.rows.map fun job => (op.onRow db job).demand).sum := by
  rw [Database.demand, effect.rows, inserted, List.append_nil, List.map_map]
  rfl

theorem Op.Effect.demand_le (effect : op.Effect db db') (inserted : op.inserted db = [])
    (lowers : ∀ job ∈ db.jobs.rows, op.selects db job → (op.writes job).demand ≤ job.demand) :
    db'.demand ≤ db.demand := by
  rw [effect.demand inserted]
  refine sum_map_le fun job mem => ?_
  unfold Op.onRow
  split
  · next selected => exact lowers job mem selected
  · exact Nat.le_refl _

/-- The demand after a statement that selects one job. -/
theorem Op.Effect.demand_one (effect : op.Effect db db') (inserted : op.inserted db = [])
    (found : db.job? job.id = some job)
    (selects : ∀ other ∈ db.jobs.rows, op.selects db other → other.id = job.id)
    (selected : op.selects db job = true) :
    db'.demand + job.demand ≤ db.demand + (op.writes job).demand := by
  have mem := (Database.mem_of_job? found).1
  have own : op.onRow db job = op.writes job := by rw [Op.onRow, if_pos selected]
  rw [effect.demand inserted, ← own]
  refine sum_map_change db.rows_nodup mem fun other hother ne => ?_
  unfold Op.onRow
  split
  · next chosen => exact absurd (Database.eq_of_id_eq hother mem (selects other hother chosen)) ne
  · exact Nat.le_refl _

theorem demand_promoted {count : Nat} (ran : promoteDueScheduled db now = .ok (count, db')) :
    db'.demand ≤ db.demand := by
  have committed : (Op.promoteDueScheduled now).run db = .ok ({ count := count }, db') := by
    simp only [Op.run, ran, Except.map]
  refine (Op.run_effect committed).demand_le rfl fun job _ selected => ?_
  simp only [Op.selects, due, Bool.and_eq_true, decide_eq_true_eq] at selected
  have unsent : job.status ∈ JobStatus.unsent := by rw [selected.1]; decide
  have pending : (applyPromotion now job).status ∈ JobStatus.unsent := by
    change JobStatus.PENDING ∈ JobStatus.unsent
    decide
  simp only [Op.writes, QueueJob.demand, unsent, pending, if_true]
  exact Nat.le_refl _

theorem demand_cancelled {count : Nat} (ran : cancelDisabled db now = .ok (count, db')) :
    db'.demand ≤ db.demand := by
  have committed : (Op.cancelDisabled now).run db = .ok ({ count := count }, db') := by
    simp only [Op.run, ran, Except.map]
  exact (Op.run_effect committed).demand_le rfl fun _ _ _ => Nat.zero_le _

theorem demand_forbidden {jid : String}
    (ran : DestinationRepository.setCanSend db jid false now = .ok db') :
    db'.demand ≤ db.demand := by
  have committed : (Op.setCanSend jid false now).run db = .ok ({}, db') := by
    simp only [Op.run, ran, Except.map]
  exact (Op.run_effect committed).demand_le rfl fun _ _ _ => Nat.zero_le _

/-- A claim spends an attempt. -/
theorem demand_claimed {reference : Option String} {dryRunOnly : Bool}
    (ran : claim db now reference dryRunOnly = .ok (some job, db')) :
    db'.demand + (job.maxAttempts + 1 - job.attemptCount) + 1 ≤ db.demand := by
  obtain ⟨row, found, claimable, rfl, -⟩ := claim_some ran
  change db.job? row.id = some row at found
  have committed : (Op.claim now reference dryRunOnly).run db =
      .ok ({ job := some (applyClaim now row) }, db') := by
    simp only [Op.run, ran, Except.map]
  rcases claim_ok ran with ⟨-, none, -⟩ | ⟨row', selects, -, heq⟩
  · cases none
  · have taken : row'.id = row.id := (congrArg QueueJob.id (Option.some.inj heq)).symm
    have same : row' = row :=
      Database.eq_of_id_eq (mem_of_selectClaim selects).1 (Database.mem_of_job? found).1 taken
    subst same
    have chosen : ∀ other, (Op.claim now reference dryRunOnly).selects db other =
        stillClaimable row' other := by
      intro other
      simp only [Op.selects, selects]
    have change := (Op.run_effect committed).demand_one rfl found
      (fun other _ selected => by
        rw [chosen, stillClaimable, Bool.and_eq_true, decide_eq_true_eq] at selected
        exact selected.1)
      (by rw [chosen, stillClaimable, decide_eq_true rfl, decide_eq_true rfl]; rfl)
    have queued : row'.demand = row'.maxAttempts - row'.attemptCount + 1 := by
      rw [QueueJob.demand, if_pos (claimable_unsent claimable)]
    have spent : (Op.writes (.claim now reference dryRunOnly) row').demand = 0 := rfl
    rw [queued, spent] at change
    change db'.demand + (row'.maxAttempts + 1 - (row'.attemptCount + 1)) + 1 ≤ db.demand
    omega

/-- A transition of a job in hand. -/
theorem demand_settled {target : JobStatus} {options : TransitionOptions} {settled : QueueJob}
    (found : db.job? job.id = some job)
    (ran : transition db job.uuid.text target options now = .ok (settled, db')) :
    db'.demand ≤ db.demand + (applyTransition target options now job).demand := by
  have committed : (Op.transition job.uuid.text target options now).run db =
      .ok ({ job := some settled }, db') := by
    simp only [Op.run, ran, Except.map]
  have mem := (Database.mem_of_job? found).1
  have chosen : ∀ other, (Op.transition job.uuid.text target options now).selects db other =
      decide (other.id = job.id) := fun other => Op.selects_uuid mem rfl
  have change := (Op.run_effect committed).demand_one rfl found
    (fun other _ selected => by
      rw [chosen, decide_eq_true_eq] at selected
      exact selected)
    (by rw [chosen, decide_eq_true rfl])
  exact Nat.le_trans (Nat.le_add_right _ _) change

end

/-! ## The measure of a worker -/

namespace Phase

/-- What the job in hand can still demand. -/
def reserve (phase : Phase) : Nat :=
  match phase.unsettled with
  | none => 0
  | some job => job.maxAttempts + 1 - job.attemptCount

/-- The loop is about to end. -/
@[simp] def quits : Phase → Bool
  | suspending _ _ _ | unlinking _ _ | unlinkingReason _ _ | auditing _ | thrown _ | ending _
  | ended _ => true
  | _ => false

/-- The phases of a pass up to its claim, which a request to stop does not cut short. -/
@[simp] def searches : Phase → Bool
  | readingReason | readingUntil _ | droppingUntil _ | droppingReason | promoting | cancelling
  | claiming => true
  | _ => false

/-- A job is put back with attempts left, or at shutdown. -/
@[simp] def Affordable (stopping : Bool) : Phase → Prop
  | retrying job _ _ | limiting job _ _ => job.attemptCount < job.maxAttempts
  | releasing _ => stopping = true
  | _ => True

/-- The turns to the end of the pass, or to its claim. -/
@[simp] def rank : Phase → Nat
  | pacing _ => 30
  | releasing _ | resolving _ => 29
  | refusing _ _ _ | handing _ => 28
  | sending _ => 27
  | settling _ _ => 26
  | noting _ _ => 25
  | connecting _ _ => 24
  | handling _ _ => 23
  | forbidding _ _ => 22
  | failing _ _ | retrying _ _ _ | limiting _ _ _ | suspending _ _ _ => 21
  | pausing _ | unlinking _ _ => 20
  | pausingReason | unlinkingReason _ _ => 19
  | auditing _ => 18
  | returned true => 17
  | starting => 16
  | ready => 15
  | readingReason => 14
  | readingUntil _ => 13
  | droppingUntil _ => 12
  | droppingReason => 11
  | promoting => 10
  | cancelling => 9
  | claiming => 8
  | returned false => 3
  | thrown _ => 2
  | ending _ => 1
  | ended _ => 0

/-- Where the worker looks whether it is paused. -/
@[simp] def asks : Phase → Bool
  | readingReason | readingUntil _ | droppingUntil _ | droppingReason => true
  | _ => false

/-- How the loop can be over: it was told to stop, or there is no date for the
next attempt. -/
@[simp] def Orderly (stopping : Bool) : Phase → Prop
  | thrown error | ending (some error) | ended (some error) => error = .range
  | ending none | ended none => stopping = true
  | _ => True

/-- From `phase` a turn goes on to `next`, nearer to the end of the pass. -/
@[simp] def Nears (phase next : Phase) : Prop :=
  (phase.quits = true → next.quits = true) ∧ (next.searches = true → phase.searches = true) ∧
    next.rank < phase.rank

/-- A turn with no job in hand after it. -/
@[simp] def Leaves (phase next : Phase) : Prop :=
  next.unsettled = none ∧ (next.asks = true → phase.asks = true) ∧
    (∀ stopping, next.Orderly stopping) ∧ phase.Nears next

/-- A turn with a job in hand before and after it. -/
@[simp] def Carries (job : QueueJob) (stopping : Bool) (phase next : Phase) : Prop :=
  phase.unsettled = some job ∧ next.unsettled = some job ∧ next.Affordable stopping ∧
    phase.Nears next

theorem rank_lt (phase : Phase) : phase.rank < 32 := by
  unfold rank
  split <;> omega

end Phase

/-- A request to stop, if there is one. -/
def Worker.told (w : Worker) (stop : Bool) : Worker := { w with stopping := w.stopping || stop }

/-- The worker does not come to another claim. -/
def Worker.quits (w : Worker) : Bool := w.phase.quits || w.stopping && !w.phase.searches

namespace QueueWorker

/-- The claims that are left, and one for the pass that finds none. -/
def potential (w : Worker) (db : Database) : Nat :=
  if w.quits then 0 else db.demand + w.phase.reserve + 1

def fuel (s : Worker × Database) : Nat := potential s.1 s.2 * 32 + s.1.phase.rank

/-- A worker in its loop. -/
structure Afoot (s : Worker × Database) : Prop where
  looping : s.1.looping = true
  held : ∀ job, s.1.phase.unsettled = some job →
    s.2.job? job.id = some job ∧ job.status = .PROCESSING
  affordable : s.1.phase.Affordable s.1.stopping
  live : s.1.phase.asks = true → s.1.transport = .baileys
  orderly : s.1.phase.Orderly s.1.stopping

/-- The worker sleeps, or its loop is over. -/
def Rests (s : Worker × Database) : Prop :=
  s.1.phase = .returned false ∨ ∃ error, s.1.phase = .ended error

variable {parser : DateParser} {w w' : Worker} {db db' : Database} {i : WorkerInput}
  {job : QueueJob} {op : Op} {phase : Phase}

/-- A turn that spends no attempt. -/
theorem fuel_advance
    (total : w.quits = false → db'.demand + w'.phase.reserve ≤ db.demand + w.phase.reserve)
    (quits : w.quits = true → w'.quits = true) (rank : w'.phase.rank < w.phase.rank) :
    fuel (w', db') < fuel (w, db) := by
  have lower : potential w' db' ≤ potential w db := by
    unfold potential
    cases quitting : w.quits with
    | true =>
      rw [quits quitting]
      exact Nat.le_refl _
    | false =>
      split
      · exact Nat.zero_le _
      · exact Nat.succ_le_succ (total quitting)
  change potential w' db' * 32 + w'.phase.rank < potential w db * 32 + w.phase.rank
  omega

/-- A claim. -/
theorem fuel_spend (total : db'.demand + w'.phase.reserve + 1 ≤ db.demand + w.phase.reserve)
    (running : w.quits = false) : fuel (w', db') < fuel (w, db) := by
  have lower : potential w' db' + 1 ≤ potential w db := by
    unfold potential
    rw [running]
    split
    · exact Nat.succ_le_succ (Nat.zero_le _)
    · exact Nat.succ_le_succ total
  have below := w'.phase.rank_lt
  change potential w' db' * 32 + w'.phase.rank < potential w db * 32 + w.phase.rank
  omega

theorem asks_of_unsettled (h : phase.unsettled = some job) : phase.asks = false := by
  cases phase <;> first | rfl | cases h

theorem orderly_of_unsettled {stopping : Bool} (h : phase.unsettled = some job) :
    phase.Orderly stopping := by
  cases phase <;> trivial

theorem affordable_of_none {stopping : Bool} (h : phase.unsettled = none) :
    phase.Affordable stopping := by
  cases phase <;> trivial

theorem reserve_of_unsettled (h : phase.unsettled = some job) :
    phase.reserve = job.maxAttempts + 1 - job.attemptCount := by
  rw [Phase.reserve, h]

theorem reserve_of_none (h : phase.unsettled = none) : phase.reserve = 0 := by
  rw [Phase.reserve, h]

/-- A turn keeps the worker in its loop, and lowers what is left. -/
structure Proceeds (s s' : Worker × Database) : Prop where
  afoot : Afoot s'
  falls : fuel s' < fuel s

theorem quits_nears (nears : w.phase.Nears w'.phase) (stopping : w'.stopping = w.stopping)
    (quits : w.quits = true) : w'.quits = true := by
  obtain ⟨goes, searches, -⟩ := nears
  simp only [Worker.quits, Bool.or_eq_true, Bool.and_eq_true, Bool.not_eq_true'] at *
  rcases quits with quits | ⟨stops, awake⟩
  · exact Or.inl (goes quits)
  · refine Or.inr ⟨stopping.trans stops, ?_⟩
    cases found : w'.phase.searches with
    | false => rfl
    | true => cases awake.symm.trans (searches found)

namespace Afoot

/-- A turn after which no job is in hand. -/
theorem proceed (h : Afoot (w, db)) (looping : w'.looping = w.looping)
    (unsettled : w'.phase.unsettled = none)
    (live : w'.phase.asks = true → w'.transport = .baileys)
    (orderly : w'.phase.Orderly w'.stopping)
    (demand : w.quits = false → db'.demand ≤ db.demand + w.phase.reserve)
    (quits : w.quits = true → w'.quits = true)
    (rank : w'.phase.rank < w.phase.rank) : Proceeds (w, db) (w', db') where
  afoot :=
    { looping := looping.trans h.looping
      held := fun job found => by cases unsettled.symm.trans found
      affordable := affordable_of_none unsettled
      live := live
      orderly := orderly }
  falls := by
    refine fuel_advance (fun running => ?_) quits rank
    rw [reserve_of_none unsettled]
    exact demand running

/-- A turn on to another phase, with no job in hand after it. -/
theorem pass {next : Phase} (h : Afoot (w, db)) (current : w.phase = phase)
    (leaves : phase.Leaves next)
    (demand : w.quits = false → db'.demand ≤ db.demand + phase.reserve) :
    Proceeds (w, db) (w.goto next, db') := by
  subst current
  obtain ⟨unsettled, live, orderly, nears⟩ := leaves
  exact h.proceed rfl unsettled (fun asks => h.live (live asks)) (orderly _) demand
    (quits_nears nears rfl) nears.2.2

/-- A turn with the job in hand before and after it. -/
theorem carry {next : Phase} (h : Afoot (w, db)) (current : w.phase = phase)
    (carries : phase.Carries job w.stopping next) (kept : db'.job? job.id = some job)
    (demand : db'.demand ≤ db.demand) : Proceeds (w, db) (w.goto next, db') := by
  subst current
  obtain ⟨before, after, affordable, nears⟩ := carries
  constructor
  · exact
      { looping := h.looping
        held := fun job' found => by
          cases after.symm.trans found
          exact ⟨kept, (h.held job before).2⟩
        affordable := affordable
        live := fun asks => by cases (asks_of_unsettled after).symm.trans asks
        orderly := orderly_of_unsettled after }
  · refine fuel_advance (fun _ => ?_) (quits_nears nears rfl) nears.2.2
    rw [Worker.goto_phase, reserve_of_unsettled after, reserve_of_unsettled before]
    exact Nat.add_le_add_right demand _

/-- A turn that puts a job into the hands of the worker. -/
theorem take (h : Afoot (w, db)) (claiming : w.phase = .claiming)
    {reference : Option String} {dryRunOnly : Bool} {now : Timestamp}
    (ran : claim db now reference dryRunOnly = .ok (some job, db')) :
    Proceeds (w, db) (w.goto (.pacing job), db') where
  afoot :=
    { looping := h.looping
      held := fun job' found => by
        cases found
        obtain ⟨row, -, -, rfl, found⟩ := claim_some ran
        exact ⟨found, rfl⟩
      affordable := trivial
      live := fun asks => by cases asks
      orderly := trivial }
  falls := by
    refine fuel_spend ?_ ?_
    · have spent := demand_claimed ran
      change db'.demand + (job.maxAttempts + 1 - job.attemptCount) + 1 ≤ db.demand + w.phase.reserve
      omega
    · unfold Worker.quits
      rw [claiming]
      exact Bool.and_false _

end Afoot

/-! ## Turns of the loop -/

namespace Transits

variable {target : JobStatus} {options : TransitionOptions}

theorem unsettled (h : Transits w i job target options) : w.phase.unsettled = some job := by
  cases h with
  | releasing phase | refusing phase | settling phase | retrying phase | limiting phase
  | suspending phase | failing phase =>
    rw [phase]
    rfl

/-- A job is settled for good, or put back with the attempts that it has left. -/
theorem demand_le (h : Transits w i job target options)
    (affordable : w.phase.Affordable w.stopping) (going : w.quits = false) (time : Timestamp) :
    (applyTransition target options time job).demand ≤ w.phase.reserve := by
  rw [reserve_of_unsettled h.unsettled]
  cases h with
  | releasing phase =>
    rw [phase] at affordable
    rw [Worker.quits, phase, show w.stopping = true from affordable] at going
    cases going
  | refusing | failing => exact Nat.zero_le _
  | @settling result =>
    cases result.dryRun <;> exact Nat.zero_le _
  | retrying phase | limiting phase =>
    rw [phase] at affordable
    change job.attemptCount < job.maxAttempts at affordable
    change job.maxAttempts - job.attemptCount + 1 ≤ job.maxAttempts + 1 - job.attemptCount
    omega
  | suspending phase =>
    rw [Worker.quits, phase] at going
    cases going

theorem leaves (h : Transits w i job target options) (settled : QueueJob) :
    ∃ phase, answered parser w i { job := some settled } = w.goto phase ∧
      w.phase.Leaves phase := by
  cases h with
  | releasing phase | refusing phase | retrying phase | failing phase =>
    refine ⟨.returned true, by simp only [answered, phase], ?_⟩
    rw [phase]
    simp [Phase.unsettled, Phase.working]
  | @settling result phase =>
    refine ⟨if result.dryRun then .connecting job result else .noting job result,
      by simp only [answered, phase], ?_⟩
    rw [phase]
    cases result.dryRun <;> simp [Phase.unsettled]
  | @limiting error next phase =>
    refine ⟨.pausing next, by simp only [answered, phase], ?_⟩
    rw [phase]
    simp [Phase.unsettled, Phase.working]
  | @suspending error next phase =>
    refine ⟨.unlinking job.uuid error, by simp only [answered, phase], ?_⟩
    rw [phase]
    simp [Phase.unsettled, Phase.working]

end Transits

theorem Afoot.settle {target : JobStatus} {options : TransitionOptions} (h : Afoot (w, db))
    (transits : Transits w i job target options) (granted : i.fails = false) :
    Proceeds (w, db) ((client parser).step store w i db) := by
  obtain ⟨row, processing⟩ := h.held job transits.unsettled
  obtain ⟨settled, after, ran⟩ := transition_active options i.wall.toISOString
    (Database.getByReference_uuid (Database.mem_of_job? row).1)
    (processing ▸ (transits.settles i.wall.toISOString).1) (processing ▸ by decide)
  have committed : (Op.transition job.uuid.text target options i.wall.toISOString).run db =
      .ok ({ job := some settled }, after) := by
    simp only [Op.run, ran, Except.map]
  rw [called transits.call granted committed]
  obtain ⟨phase, goes, leaves⟩ := transits.leaves (i := i) settled
  rw [goes]
  refine h.pass rfl leaves fun going => Nat.le_trans (demand_settled row ran) ?_
  exact Nat.add_le_add_left (transits.demand_le h.affordable going _) _

theorem Afoot.decide_step {error : DeliveryError} (h : Afoot (w, db))
    (current : w.phase = .handling job error) :
    Proceeds (w, db) (w.goto (branch w i job error), db) := by
  have taken := decided w i job error
  have row := (h.held job (by rw [current]; rfl)).1
  generalize branch w i job error = phase at taken
  cases taken with
  | thrown =>
    exact h.pass current (by simp [Phase.unsettled, Phase.working]) fun _ => Nat.le_add_right _ _
  | forbidding | failing | suspending =>
    exact h.carry current (by simp [Phase.unsettled, Phase.working]) row (Nat.le_refl _)
  | retrying _ _ left | limiting _ _ left =>
    exact h.carry current (by simp [Phase.unsettled, Phase.working, left]) row (Nat.le_refl _)

theorem Afoot.forbid {error : DeliveryError} (h : Afoot (w, db))
    (current : w.phase = .forbidding job error) (granted : i.fails = false) :
    Proceeds (w, db) ((client parser).step store w i db) := by
  obtain ⟨row, processing⟩ := h.held job (by rw [current]; rfl)
  have call : turn w i = .call (.setCanSend job.destinationJid false i.wall.toISOString) := by
    simp only [turn, current]
  obtain ⟨after, ran⟩ := DestinationRepository.setCanSend_total db job.destinationJid false
    i.wall.toISOString
  have committed : (Op.setCanSend job.destinationJid false i.wall.toISOString).run db =
      .ok ({}, after) := by
    simp only [Op.run, ran, Except.map]
  rw [called call granted committed]
  simp only [answered, current]
  -- the job is `PROCESSING`, so the cancellation passes it over
  have unselected : (Op.setCanSend job.destinationJid false i.wall.toISOString).selects db job =
      false := by
    simp only [Op.selects, unsentWhere, processing]
    exact (congrArg _ (Bool.and_false _)).trans rfl
  have kept : after.job? job.id = some job := by
    have written := (Op.run_effect committed).job? row
    rwa [Op.onRow, unselected] at written
  exact h.carry current (by simp [Phase.unsettled, Phase.working]) kept (demand_forbidden ran)

/-- A turn with a job in hand. -/
theorem Afoot.hand_step (h : Afoot (w, db)) (hand : w.phase.unsettled = some job)
    (granted : i.fails = false) : Proceeds (w, db) ((client parser).step store w i db) := by
  obtain ⟨row, processing⟩ := h.held job hand
  have same := Nat.le_refl db.demand
  generalize current : w.phase = now at hand
  cases now with
  | pacing held =>
    cases hand
    have move : turn w i =
        .move (w.goto (if w.stopping then .releasing job else .resolving job)) := by
      simp only [turn, current]
    rw [moved move]
    refine h.carry current ?_ row same
    cases w.stopping <;> simp [Phase.unsettled, Phase.working]
  | resolving held =>
    cases hand
    have call : turn w i = .call (.resolve job.destinationJid) := by simp only [turn, current]
    rw [called call granted rfl]
    simp only [answered, current]
    refine h.carry current ?_ row same
    split
    · simp [Phase.unsettled, Phase.working]
    · split
      · simp [Phase.unsettled, Phase.working]
      · split <;> simp [Phase.unsettled, Phase.working]
  | handing held =>
    cases hand
    have move : turn w i = .move (w.goto (.sending job)) := by
      simp only [turn, current, processing, if_true]
    rw [moved move]
    exact h.carry current (by simp [Phase.unsettled, Phase.working]) row same
  | sending held =>
    cases hand
    have move : ∃ phase : Phase, turn w i = .move (w.goto phase) ∧
        (Phase.sending job).Carries job w.stopping phase := by
      simp only [turn, current]
      refine ⟨_, rfl, ?_⟩
      split
      · simp [Phase.unsettled, Phase.working]
      · split <;> simp [Phase.unsettled, Phase.working]
    obtain ⟨phase, move, carries⟩ := move
    rw [moved move]
    exact h.carry current carries row same
  | handling held error =>
    cases hand
    have move : turn w i = .move (w.goto (branch w i job error)) := by simp only [turn, current]
    rw [moved move]
    exact h.decide_step current
  | forbidding held error =>
    cases hand
    exact h.forbid current granted
  | releasing held =>
    cases hand
    exact h.settle (.releasing current) granted
  | refusing held errorClass message =>
    cases hand
    exact h.settle (.refusing current) granted
  | settling held result =>
    cases hand
    exact h.settle (.settling current) granted
  | retrying held error next =>
    cases hand
    exact h.settle (.retrying current) granted
  | limiting held error next =>
    cases hand
    exact h.settle (.limiting current) granted
  | suspending held error next =>
    cases hand
    exact h.settle (.suspending current) granted
  | failing held error =>
    cases hand
    exact h.settle (.failing current) granted
  | _ => cases hand

/-- The pass proper begins. -/
theorem Afoot.begin (h : Afoot (w, db)) (current : w.phase = phase) (running : w.quits = false)
    (rank : 10 < phase.rank) (same : db'.jobs = db.jobs) :
    Proceeds (w, db) (w.begin i.clock, db') := by
  subst current
  refine h.proceed rfl rfl (fun asks => by cases asks) trivial (fun _ => ?_)
    (fun quitting => ?_) rank
  · rw [Database.demand_same same]
    exact Nat.le_add_right _ _
  · cases running.symm.trans quitting

/-- A call with no job in hand after it. -/
theorem Afoot.answer {reply : Reply} (next : Phase) (h : Afoot (w, db))
    (current : w.phase = phase) (granted : i.fails = false) (call : turn w i = .call op)
    (ran : op.run db = .ok (reply, db')) (goes : answered parser w i reply = w.goto next)
    (leaves : phase.Leaves next) (demand : db'.demand ≤ db.demand) :
    Proceeds (w, db) ((client parser).step store w i db) := by
  rw [called call granted ran, goes]
  exact h.pass current leaves fun _ => Nat.le_trans demand (Nat.le_add_right _ _)

theorem Afoot.early_step (h : Afoot (w, db)) (phase : early w.phase) (granted : i.fails = false) :
    Proceeds (w, db) ((client parser).step store w i db) := by
  have kept : ∀ reserve, db.demand ≤ db.demand + reserve := fun _ => Nat.le_add_right _ _
  generalize current : w.phase = now at phase
  have running : w.quits = false := by
    rw [Worker.quits, current]
    cases now <;> first | exact Bool.and_false _ | cases phase
  cases now with
  | readingReason =>
    have call : turn w i = .call (.getState "outgoing_pause_reason") := by
      simp only [turn, current]
    rw [called call granted rfl]
    simp only [answered, current]
    split
    · exact h.pass current (by simp [Phase.unsettled, Phase.working]) fun _ => kept _
    · split <;> exact h.pass current (by simp [Phase.unsettled, Phase.working]) fun _ => kept _
  | readingUntil reason =>
    have call : turn w i = .call (.getState "outgoing_pause_until") := by
      simp only [turn, current]
    rw [called call granted rfl]
    simp only [answered, current]
    split
    · exact h.begin current running (by simp) rfl
    · split
      · exact h.begin current running (by simp) rfl
      · split <;> exact h.pass current (by simp [Phase.unsettled, Phase.working]) fun _ => kept _
  | droppingUntil reason =>
    have call : turn w i = .call (.removeState "outgoing_pause_until") := by
      simp only [turn, current]
    rw [called call granted rfl]
    simp only [answered, current]
    split
    · exact h.pass current (by simp [Phase.unsettled, Phase.working]) fun _ => kept _
    · exact h.begin current running (by simp) rfl
  | droppingReason =>
    have call : turn w i = .call (.removeState "outgoing_pause_reason") := by
      simp only [turn, current]
    rw [called call granted rfl]
    simp only [answered, current]
    exact h.begin current running (by simp) rfl
  | promoting =>
    obtain ⟨count, after, ran⟩ := promoteDueScheduled_total db w.now.toISOString
    have committed : (Op.promoteDueScheduled w.now.toISOString).run db =
        .ok ({ count := count }, after) := by
      simp only [Op.run, ran, Except.map]
    exact h.answer .cancelling current granted (by simp only [turn, current]) committed
      (by simp only [answered, current]) (by simp [Phase.unsettled, Phase.working])
      (demand_promoted ran)
  | _ => cases phase

theorem Afoot.sweeping_step (h : Afoot (w, db))
    (phase : w.phase = .cancelling ∨ w.phase = .claiming) (granted : i.fails = false) :
    Proceeds (w, db) ((client parser).step store w i db) := by
  rcases phase with cancelling | claiming
  · obtain ⟨count, after, ran⟩ := cancelDisabled_total db i.wall.toISOString
    have committed : (Op.cancelDisabled i.wall.toISOString).run db =
        .ok ({ count := count }, after) := by
      simp only [Op.run, ran, Except.map]
    exact h.answer .claiming cancelling granted (by simp only [turn, cancelling]) committed
      (by simp only [answered, cancelling]) (by simp [Phase.unsettled, Phase.working])
      (demand_cancelled ran)
  · have call : turn w i = .call (.claim w.now.toISOString w.reference w.config.dryRun) := by
      simp only [turn, claiming]
    obtain ⟨job, after, ran⟩ := claim_total db w.now.toISOString w.reference w.config.dryRun
    have committed : (Op.claim w.now.toISOString w.reference w.config.dryRun).run db =
        .ok ({ job := job }, after) := by
      simp only [Op.run, ran, Except.map]
    cases job with
    | none =>
      have same : after = db := by
        rcases claim_ok ran with ⟨-, -, same⟩ | ⟨_, -, -, some⟩
        · exact same
        · cases some
      exact h.answer (.returned false) claiming granted call committed
        (by simp only [answered, claiming]) (by simp [Phase.unsettled, Phase.working])
        (Nat.le_of_eq (congrArg Database.demand same))
    | some job =>
      rw [called call granted committed]
      simp only [answered, claiming]
      exact h.take claiming ran

/-- The account is not authorized: the worker stops itself. -/
theorem Afoot.audit {uuid : Uuid} (h : Afoot (w, db)) (current : w.phase = .auditing uuid) :
    Proceeds (w, db) ({ w with stopping := true, phase := .returned true }, db') where
  afoot :=
    { looping := h.looping
      held := fun job found => by cases found
      affordable := trivial
      live := fun asks => by cases asks
      orderly := trivial }
  falls := by
    refine fuel_advance (fun running => ?_) (fun _ => rfl) ?_
    · rw [Worker.quits, current] at running
      cases running
    · rw [current]
      simp

/-- A turn after the job is settled. -/
theorem Afoot.closing_step (h : Afoot (w, db)) (phase : closing w.phase)
    (granted : i.fails = false) : Proceeds (w, db) ((client parser).step store w i db) := by
  generalize current : w.phase = now at phase
  cases now with
  | noting held result =>
    have call : turn w i =
        .call (.setState "last_successful_send_at" (some i.clock.toISOString)) := by
      simp only [turn, current]
    exact h.answer (.connecting held result) current granted call rfl
      (by simp only [answered, current]) (by simp [Phase.unsettled])
      (Nat.le_of_eq (Database.demand_same rfl))
  | connecting held result =>
    cases value : connectivity w result with
    | some value' =>
      have call : turn w i = .call (.setState "connectivity" (some value')) := by
        simp only [turn, current, value]
      exact h.answer (.returned true) current granted call rfl (by simp only [answered, current])
        (by simp [Phase.unsettled, Phase.working]) (Nat.le_of_eq (Database.demand_same rfl))
    | none =>
      have move : turn w i = .move (w.goto (.returned true)) := by
        simp only [turn, current, value]
      rw [moved move]
      exact h.pass current (by simp [Phase.unsettled, Phase.working])
        fun _ => Nat.le_add_right _ _
  | pausing next =>
    have call : turn w i = .call (.setState "outgoing_pause_until" (some next.toISOString)) := by
      simp only [turn, current]
    exact h.answer .pausingReason current granted call rfl (by simp only [answered, current])
      (by simp [Phase.unsettled, Phase.working]) (Nat.le_of_eq (Database.demand_same rfl))
  | pausingReason =>
    have call : turn w i = .call (.setState "outgoing_pause_reason" (some "RATE_LIMITED")) := by
      simp only [turn, current]
    exact h.answer (.returned true) current granted call rfl (by simp only [answered, current])
      (by simp [Phase.unsettled, Phase.working]) (Nat.le_of_eq (Database.demand_same rfl))
  | unlinking uuid error =>
    have call : turn w i = .call (.setState "connectivity"
        (some (if error.errorClass = .LOGGED_OUT then "LOGGED_OUT" else "AUTH_REQUIRED"))) := by
      simp only [turn, current]
    exact h.answer (.unlinkingReason uuid error) current granted call rfl
      (by simp only [answered, current]) (by simp [Phase.unsettled, Phase.working])
      (Nat.le_of_eq (Database.demand_same rfl))
  | unlinkingReason uuid error =>
    have call : turn w i = .call (.setState "outgoing_pause_reason"
        (some error.errorClass.text)) := by
      simp only [turn, current]
    exact h.answer (.auditing uuid) current granted call rfl (by simp only [answered, current])
      (by simp [Phase.unsettled, Phase.working]) (Nat.le_of_eq (Database.demand_same rfl))
  | auditing uuid =>
    have call : turn w i = .call (.addAudit
        { eventType := "auth_required"
          actor := "worker"
          entityType := some "job"
          entityId := some uuid.text
          details := none
          createdAt := i.wall.toISOString }) := by
      simp only [turn, current]
    rw [called call granted rfl]
    simp only [answered, current]
    exact h.audit current
  | returned processed =>
    cases processed with
    | false => cases phase
    | true =>
      have looping : w.looping = true := h.looping
      have move : turn w i = .move (w.goto .ready) := by
        simp only [turn, current, looping, if_true]
      rw [moved move]
      exact h.pass current (by simp [Phase.unsettled, Phase.working])
        fun _ => Nat.le_add_right _ _
  | _ => cases phase

/-- A turn before a pass, or after the last. -/
theorem Afoot.outer_step (h : Afoot (w, db)) (granted : i.fails = false)
    (outer : w.phase = .starting ∨ w.phase = .ready ∨ (∃ error, w.phase = .thrown error) ∨
      ∃ error, w.phase = .ending error) :
    Proceeds (w, db) ((client parser).step store w i db) := by
  have kept : ∀ reserve, db.demand ≤ db.demand + reserve := fun _ => Nat.le_add_right _ _
  have looping : w.looping = true := h.looping
  have orderly : w.phase.Orderly w.stopping := h.orderly
  rcases outer with starting | ready | ⟨error, thrown⟩ | ⟨error, ending⟩
  · have call : turn w i = .call (.setState "worker_state" (some "RUNNING")) := by
      simp only [turn, starting]
    exact h.answer .ready starting granted call rfl (by simp only [answered, starting])
      (by simp [Phase.unsettled, Phase.working]) (Nat.le_of_eq (Database.demand_same rfl))
  · cases stopping : w.stopping with
    | true =>
      have move : turn w i = .move (w.goto (.ending none)) := by
        simp only [turn, ready, looping, stopping, Bool.and_self, if_true]
      rw [moved move]
      exact h.proceed rfl rfl (fun asks => by cases asks) stopping (fun _ => kept _)
        (fun _ => rfl) (by rw [ready]; simp)
    | false =>
      have running : w.quits = false := by rw [Worker.quits, ready, stopping]; rfl
      cases transport : w.transport with
      | dryRun =>
        have move : turn w i = .move (w.begin i.clock) := by
          simp only [turn, ready, looping, stopping, transport, Transport.name, Bool.and_false,
            Bool.false_eq_true, if_false, if_true]
        rw [moved move]
        exact h.begin ready running (by simp) rfl
      | baileys =>
        have move : turn w i = .move (w.goto .readingReason) := by
          simp only [turn, ready, looping, stopping, transport, Transport.name, Bool.and_false,
            Bool.false_eq_true, if_false, String.reduceEq]
        rw [moved move]
        exact h.proceed rfl rfl (fun _ => transport) trivial (fun _ => kept _)
          (fun quits => by cases running.symm.trans quits) (by rw [ready]; simp)
  · have move : turn w i = .move (w.goto (.ending (some error))) := by
      simp only [turn, thrown, looping, if_true]
    rw [thrown] at orderly
    rw [moved move]
    exact h.proceed rfl rfl (fun asks => by cases asks) orderly (fun _ => kept _) (fun _ => rfl)
      (by rw [thrown]; simp)
  · have call : turn w i = .call (.setState "worker_state" (some "STOPPED")) := by
      simp only [turn, ending]
    rw [ending] at orderly
    rw [called call granted rfl]
    simp only [answered, ending]
    refine h.proceed rfl rfl (fun asks => by cases asks) ?_ (fun _ => kept _) (fun _ => rfl)
      (by rw [ending]; simp)
    cases error <;> exact orderly

/-- The step lemma of the measure. -/
theorem Afoot.step (h : Afoot (w, db)) (unrest : ¬Rests (w, db)) (granted : i.fails = false) :
    Proceeds (w, db) ((client parser).step store w i db) := by
  cases current : w.phase with
  | starting => exact h.outer_step granted (Or.inl current)
  | ready => exact h.outer_step granted (Or.inr (Or.inl current))
  | thrown error => exact h.outer_step granted (Or.inr (Or.inr (Or.inl ⟨error, current⟩)))
  | ending error => exact h.outer_step granted (Or.inr (Or.inr (Or.inr ⟨error, current⟩)))
  | ended error => exact absurd (Or.inr ⟨error, current⟩) unrest
  | returned processed =>
    cases processed with
    | false => exact absurd (Or.inl current) unrest
    | true => exact h.closing_step (by rw [current]; rfl) granted
  | readingReason | readingUntil | droppingUntil | droppingReason | promoting =>
    exact h.early_step (by rw [current]; rfl) granted
  | cancelling => exact h.sweeping_step (Or.inl current) granted
  | claiming => exact h.sweeping_step (Or.inr current) granted
  | noting | connecting | pausing | pausingReason | unlinking | unlinkingReason | auditing =>
    exact h.closing_step (by rw [current]; rfl) granted
  | pacing job | releasing job | resolving job | refusing job | handing job | sending job
  | settling job | handling job | retrying job | limiting job | suspending job | forbidding job
  | failing job => exact h.hand_step (by rw [current]; rfl) granted

/-! ## Sleep -/

/-- Why a worker sleeps. -/
inductive Idle (parser : DateParser) (clock : Date) (w : Worker) (db : Database) : Prop where
  | paused {reason : String} (live : w.transport = .baileys)
    (found : db.appState "outgoing_pause_reason" = some reason)
    (pausing : reason ∈ pausingReasons)
  | waiting {pauseUntil : String} (live : w.transport = .baileys)
    (found : db.appState "outgoing_pause_until" = some pauseUntil)
    (later : stillPaused parser pauseUntil clock = true)
  | drained (none : ∀ job ∈ db.jobs.rows,
      claimable db w.now.toISOString w.reference w.config.dryRun job = false)

theorem awake_of_move (move : turn w i = .move w') (awake : w.phase ≠ .returned false) :
    w'.phase ≠ .returned false := by
  intro asleep
  cases current : w.phase with
  | ready =>
    simp only [turn, current, Turn.move.injEq] at move
    subst move
    split at asleep
    · cases asleep
    · split at asleep <;> cases asleep
  | pacing job =>
    simp only [turn, current, Turn.move.injEq] at move
    subst move
    dsimp only [Worker.goto] at asleep
    split at asleep <;> cases asleep
  | handing job =>
    simp only [turn, current, Turn.move.injEq] at move
    subst move
    dsimp only [Worker.goto] at asleep
    split at asleep <;> cases asleep
  | sending job =>
    simp only [turn, current, Turn.move.injEq] at move
    subst move
    dsimp only [Worker.goto] at asleep
    split at asleep
    · cases asleep
    · split at asleep <;> cases asleep
  | connecting job result =>
    simp only [turn, current] at move
    split at move
    · cases move
    · cases move
      cases asleep
  | handling job error =>
    simp only [turn, current, Turn.move.injEq] at move
    subst move
    have taken := branches w i job error
    rw [show branch w i job error = .returned false from asleep] at taken
    cases taken
  | returned processed =>
    simp only [turn, current, Turn.move.injEq] at move
    subst move
    split at asleep
    · cases asleep
    · exact awake asleep
  | thrown error =>
    simp only [turn, current, Turn.move.injEq] at move
    subst move
    split at asleep
    · cases asleep
    · exact awake asleep
  | ended error =>
    simp only [turn, current, Turn.move.injEq] at move
    subst move
    exact awake asleep
  | _ => simp only [turn, current, reduceCtorEq] at move

theorem idle_of_answer {reply : Reply} (h : Afoot (w, db))
    (call : turn w i = .call op) (ran : op.run db = .ok (reply, db'))
    (asleep : (answered parser w i reply).phase = .returned false) :
    Idle parser i.clock (answered parser w i reply) db' := by
  cases current : w.phase with
  | readingReason =>
    have live : w.transport = .baileys := h.live (by rw [current]; rfl)
    simp only [turn, current, Turn.call.injEq] at call
    subst call
    cases ran
    simp only [answered, current] at asleep ⊢
    split at asleep
    · cases asleep
    · next reason found =>
      split at asleep
      · next pausing =>
        simp only [pausing, if_true]
        exact .paused live found pausing
      · cases asleep
  | readingUntil reason =>
    have live : w.transport = .baileys := h.live (by rw [current]; rfl)
    simp only [turn, current, Turn.call.injEq] at call
    subst call
    cases ran
    simp only [answered, current] at asleep ⊢
    split at asleep
    · cases asleep
    · next pauseUntil found =>
      split at asleep
      · cases asleep
      · next some =>
        split at asleep
        · next later =>
          simp only [some, later, if_false, if_true]
          exact .waiting live found later
        · cases asleep
  | claiming =>
    simp only [turn, current, Turn.call.injEq] at call
    subst call
    obtain ⟨job, after, claimed⟩ := claim_total db w.now.toISOString w.reference w.config.dryRun
    simp only [Op.run, claimed, Except.map, Except.ok.injEq, Prod.mk.injEq] at ran
    obtain ⟨rfl, rfl⟩ := ran
    simp only [answered, current] at asleep ⊢
    rcases claim_ok claimed with ⟨selected, rfl, rfl⟩ | ⟨row, -, -, rfl⟩
    · refine .drained fun job mem => Bool.eq_false_iff.mpr fun claims => ?_
      have among := List.mem_filter.mpr ⟨mem, claims⟩
      rw [Worker.goto_now, show (w.goto (.returned false)).reference = w.reference from rfl,
        Worker.goto_config, selectClaim_eq_none selected] at among
      cases among
    · cases asleep
  | droppingUntil reason =>
    simp only [answered, current] at asleep
    split at asleep <;> cases asleep
  | resolving job =>
    simp only [answered, current, Worker.goto_phase] at asleep
    split at asleep
    · cases asleep
    · split at asleep
      · cases asleep
      · split at asleep <;> cases asleep
  | settling job result =>
    simp only [answered, current, Worker.goto_phase] at asleep
    split at asleep <;> cases asleep
  | returned | ready | pacing | handing | sending | handling | thrown | ended =>
    simp only [turn, current, reduceCtorEq] at call
  | _ =>
    simp only [answered, current] at asleep
    cases asleep

theorem awake_of_error {error : AppError} : (rejected w error).phase ≠ .returned false := by
  intro asleep
  unfold rejected at asleep
  split at asleep <;> cases asleep

/-- A worker that falls asleep has a reason to. -/
theorem idle_of_step (h : Afoot (w, db)) (awake : w.phase ≠ .returned false)
    (step : (client parser).step store w i db = (w', db')) (asleep : w'.phase = .returned false) :
    Idle parser i.clock w' db' := by
  rcases Client.step_cases step with ⟨move, -⟩ | ⟨op, error, -, -, rfl, -⟩ |
    ⟨op, reply, call, -, ran, rfl⟩
  · exact absurd asleep (awake_of_move move awake)
  · exact absurd asleep awake_of_error
  · exact idle_of_answer h call ran asleep

/-! ## The whole run -/

/-- A turn of the worker, with no other client of the database; before it the
worker can be told to stop. -/
def soloTurn (parser : DateParser) (s : Worker × Database) (i : Bool × WorkerInput) :
    Worker × Database :=
  (client parser).step store (s.1.told i.1) i.2 s.2

theorem Afoot.told (h : Afoot (w, db)) (stop : Bool) : Afoot (w.told stop, db) where
  looping := h.looping
  held := h.held
  affordable := by
    have affordable : w.phase.Affordable w.stopping := h.affordable
    change w.phase.Affordable (w.stopping || stop)
    generalize w.phase = phase at *
    cases phase with
    | releasing job => exact Bool.or_eq_true_iff.mpr (Or.inl affordable)
    | retrying | limiting => exact affordable
    | _ => trivial
  live := h.live
  orderly := by
    have orderly : w.phase.Orderly w.stopping := h.orderly
    change w.phase.Orderly (w.stopping || stop)
    generalize w.phase = phase at *
    cases phase with
    | thrown error => exact orderly
    | ending error | ended error =>
      cases error with
      | none => exact Bool.or_eq_true_iff.mpr (Or.inl orderly)
      | some error => exact orderly
    | _ => trivial

theorem fuel_told (stop : Bool) : fuel (w.told stop, db) ≤ fuel (w, db) := by
  refine Nat.add_le_add_right (Nat.mul_le_mul_right 32 ?_) _
  change potential (w.told stop) db ≤ potential w db
  unfold potential
  split
  · exact Nat.zero_le _
  · next going =>
    have before : ¬w.quits = true := by
      intro quits
      refine going ?_
      simp only [Worker.quits, Worker.told, Bool.or_eq_true, Bool.and_eq_true] at *
      exact quits.imp_right fun ⟨stops, searches⟩ => ⟨Or.inl stops, searches⟩
    rw [if_neg before]
    exact Nat.le_refl _

theorem solo_descends (parser : DateParser) :
    Descends (soloTurn parser) (fun i => i.2.fails = false) Afoot Rests fuel where
  keeps := fun afoot unrest granted => ((afoot.told _).step unrest granted).afoot
  falls := fun afoot unrest granted =>
    Nat.lt_of_lt_of_le ((afoot.told _).step unrest granted).falls (fuel_told _)

theorem Afoot.start (looping : w.looping = true) (waking : w.phase = .starting ∨ w.phase = .ready) :
    Afoot (w, db) where
  looping := looping
  held := fun job found => by
    rcases waking with waking | waking <;> rw [waking] at found <;> cases found
  affordable := by rcases waking with waking | waking <;> rw [waking] <;> trivial
  live := fun asks => by rcases waking with waking | waking <;> rw [waking] at asks <;> cases asks
  orderly := by rcases waking with waking | waking <;> rw [waking] <;> trivial

theorem fuel_start (waking : w.phase = .starting ∨ w.phase = .ready) :
    fuel (w, db) ≤ 32 * (db.demand + 1) + 16 := by
  have claims : potential w db ≤ db.demand + 1 := by
    unfold potential
    split
    · exact Nat.zero_le _
    · rcases waking with waking | waking <;> rw [waking] <;> exact Nat.le_refl _
  have rank : w.phase.rank ≤ 16 := by
    rcases waking with waking | waking <;> rw [waking] <;> simp
  change potential w db * 32 + w.phase.rank ≤ _
  omega

/-- How a loop on its own has come to rest. -/
inductive AtRest (parser : DateParser) (clock : Date) (w : Worker) (db : Database) : Prop where
  | asleep (phase : w.phase = .returned false) (idle : Idle parser clock w db)
  | stopped (phase : w.phase = .ended none) (stopping : w.stopping = true)
  | failed (phase : w.phase = .ended (some .range))

/-- The loop on a database that does not fail comes to rest, whatever the
clocks, the random numbers and the outcomes of its sends, and whenever it is
told to stop. -/
theorem loop_comes_to_rest (parser : DateParser) {w : Worker} (db : Database)
    {inputs : Nat → Bool × WorkerInput} (looping : w.looping = true)
    (waking : w.phase = .starting ∨ w.phase = .ready)
    (granted : ∀ n, (inputs n).2.fails = false) :
    ∃ n < 32 * (db.demand + 1) + 16, ∃ w' db',
      drive (soloTurn parser) inputs (w, db) (n + 1) = (w', db') ∧
        AtRest parser (inputs n).2.clock w' db' := by
  have start : Afoot (w, db) := .start looping waking
  obtain ⟨turns, within, rest, before⟩ := (solo_descends parser).rests_within granted start
  cases turns with
  | zero =>
    rcases rest with asleep | ⟨error, ended⟩
    · rcases waking with waking | waking <;> cases waking.symm.trans asleep
    · rcases waking with waking | waking <;> cases waking.symm.trans ended
  | succ n =>
    refine ⟨n, Nat.le_trans within (fuel_start waking), _, _, rfl, ?_⟩
    obtain ⟨afoot, awake⟩ := before n (Nat.lt_succ_self n)
    have told := afoot.told (inputs n).1
    have last := (solo_descends parser).keeps afoot awake (granted n)
    rcases rest with asleep | ⟨error, ended⟩
    · refine .asleep asleep (idle_of_step told (fun asleep => awake (Or.inl asleep)) rfl asleep)
    · have orderly := last.orderly
      change (drive (soloTurn parser) inputs (w, db) (n + 1)).1.phase.Orderly _ at orderly
      rw [ended] at orderly
      cases error with
      | none => exact .stopped ended orderly
      | some error =>
        cases (show error = .range from orderly)
        exact .failed ended

end QueueWorker

namespace Example

open QueueWorker

/-- A live worker in its loop. -/
def rounds : Worker := { courier with looping := true }

/-- The connection is down, turn after turn. -/
def outage : WorkerInput where
  clock := clock 20
  wall := clock 20
  outcome := .error (.delivery .CONNECTION_CLOSED "closed" none)

/-- The queue in front of the worker. -/
def waiting : Database := (installation (Example.job .PENDING false)).db

theorem loop_comes_to_rest_outage : 0 < waiting.demand ∧
    ∃ n < 32 * (waiting.demand + 1) + 16, ∃ w' db',
      drive (soloTurn platform.dates) (fun _ => (false, outage)) (rounds, waiting) (n + 1) =
          (w', db') ∧
        AtRest platform.dates outage.clock w' db' :=
  ⟨by decide +kernel, loop_comes_to_rest platform.dates waiting rfl (Or.inr rfl) fun _ => rfl⟩

end Example

end WhatsappBot
