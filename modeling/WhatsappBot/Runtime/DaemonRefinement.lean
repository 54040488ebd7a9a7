import WhatsappBot.Lib.Refinement
import WhatsappBot.Runtime.DaemonShutdown
import WhatsappBot.Runtime.Steps

/-!
# Daemons refine the daemon

`Processes` has one daemon at most, which recovers and works at once. Here it
is what the lock and `runDaemon` make of any number of processes: a run of
`Daemons` in which no `acquire` removes a file that a live process owns is
matched by a run of `Processes` with the same database at its end and the same
turns of workers and of calls of the message service.
-/

namespace WhatsappBot

open Lib.KeyedMap Lib.SharedStore Lib.Transition

/-- The startup recovery is done and the `finally` block is not reached. -/
def DaemonPhase.works : DaemonPhase → Bool
  | simulating | authenticating | refusing | refusingReason | refusingAudit | connecting
  | refreshing | readingJid | readingLid | attaching | launching | running | stopping => true
  | _ => false

/-- The worker of `Processes` that stands for a daemon: its worker, or the one
that it is going to build. -/
def Daemon.slot (d : Daemon) : Option Worker :=
  if d.phase.works then some (d.worker.getD (daemonWorker d.config d.now)) else none

/-- The actions that a run of `Daemons` shows: turns of workers, calls of the
message service and the lives of one-shot workers. -/
def Action.shown : Action → List Action
  | .startDaemon _ _ | .requestStop .daemon | .crash .daemon | .command _ _ => []
  | a => [a]

def DaemonsAction.shown : DaemonsAction → List Action
  | .worker _ input => [.worker .daemon input]
  | .other a => a.shown
  | _ => []

namespace Daemons

/-- The state of `Processes` that a state of `Daemons` stands for. -/
structure Corresponds (s : Daemons) (t : Processes) : Prop where
  db : t.db = s.processes.db
  enqueues : t.enqueues = s.processes.enqueues
  drawn : t.drawn = s.processes.drawn
  cli : ∀ n, t.workers.lookup (.cli n) = s.processes.workers.lookup (.cli n)
  working : ∀ {pid d w}, s.daemons.lookup pid = some d → d.slot = some w →
    t.workers.lookup .daemon = some w
  idle : (∀ pid d, s.daemons.lookup pid = some d → d.slot = none) →
    t.workers.lookup .daemon = none

/-- One daemon at most is past its startup recovery. -/
def Single (s : Daemons) : Prop :=
  ∀ {p q d d'}, s.daemons.lookup p = some d → s.daemons.lookup q = some d' →
    d.phase.locked = true → d'.phase.locked = true → p = q

variable {platform : Platform} {s s' : Daemons} {t : Processes} {pid : ℕ+} {d d' : Daemon}
  {i : DaemonInput} {db db' : Database}

theorem Orderly.single (h : s.Orderly) (guarded : ProcessLock.Guarded s.lock) : s.Single := by
  intro p q d d' found found' locked locked'
  obtain ⟨proc, lookup, expected⟩ := h.locked found
  obtain ⟨proc', lookup', expected'⟩ := h.locked found'
  exact guarded.alone lookup lookup' (ProcessLock.Proc.engaged_of_held (expected.held locked))
    (ProcessLock.Proc.engaged_of_held (expected'.held locked'))

theorem works_locked {phase : DaemonPhase} (h : phase.works = true) : phase.locked = true := by
  cases phase with
  | simulating | authenticating | refusing | refusingReason | refusingAudit | connecting
  | refreshing | readingJid | readingLid | attaching | launching | running | stopping => rfl
  | _ => cases h

theorem slot_some {w : Worker} (h : d.slot = some w) : d.phase.works = true := by
  unfold Daemon.slot at h
  split at h
  · assumption
  · cases h

theorem slot_none (h : d.phase.works = false) : d.slot = none := by
  unfold Daemon.slot
  rw [h]
  rfl

/-! ## A turn of a daemon, for its slot -/

/-- What a turn does to the slot of the daemon. -/
inductive SlotAfter (d d' : Daemon) : Prop where
  | kept (slot : d'.slot = d.slot)
  | stopped {w : Worker} (old : d.slot = some w) (new : d'.slot = some w.requestStop)
  | dropped (slot : d'.slot = none)

theorem SlotAfter.same (works : d'.phase.works = d.phase.works) (worker : d'.worker = d.worker)
    (config : d'.config = d.config) (now : d'.now = d.now) : SlotAfter d d' :=
  .kept (by simp only [Daemon.slot, works, worker, config, now])

theorem SlotAfter.leave (outcome : Except DaemonError DaemonExit) :
    SlotAfter d (d.leave outcome) := .dropped rfl

theorem slot_awaited : SlotAfter d d.awaitWorker := by
  unfold Daemon.awaitWorker
  split
  · exact .kept rfl
  · split
    · exact .leave _
    · exact .leave _
    · exact .kept rfl

theorem slot_moved (sound : d.Sound) (move : d.turn i = .move d') : SlotAfter d d' := by
  cases phase : d.phase with
  | preparing | locking | unlocking | releasing | ended | abandoned =>
    simp only [Daemon.turn, phase, Turn.move.injEq] at move
    exact .kept (by rw [move])
  | starting | recovering | simulating | refusing | refusingReason | refusingAudit | readingJid
  | readingLid | attaching | parting =>
    simp only [Daemon.turn, phase, reduceCtorEq] at move
  | opening | closing =>
    simp only [Daemon.turn, phase, Turn.move.injEq] at move
    subst move
    exact .dropped (by split <;> rfl)
  | detaching | notifying | disconnecting =>
    simp only [Daemon.turn, phase] at move
    split at move
    · cases move
    · cases move
      exact .dropped rfl
  | draining =>
    have finished := (sound.settled (by rw [phase]; rfl)).finished
    simp only [Daemon.turn, phase, finished, if_true, Turn.move.injEq] at move
    subst move
    exact .dropped rfl
  | authenticating =>
    simp only [Daemon.turn, phase, Turn.move.injEq] at move
    subst move
    split
    · exact .leave _
    · split <;> exact .same (by rw [phase]; rfl) rfl rfl rfl
  | connecting =>
    simp only [Daemon.turn, phase, Turn.move.injEq] at move
    subst move
    split
    · exact .same (by rw [phase]; rfl) rfl rfl rfl
    · split <;> exact .leave _
  | refreshing =>
    simp only [Daemon.turn, phase, Turn.move.injEq] at move
    subst move
    split <;> exact .same (by rw [phase]; rfl) rfl rfl rfl
  | launching =>
    have unbuilt := (sound.building (by rw [phase]; rfl)).2.1
    simp only [Daemon.turn, phase, Turn.move.injEq] at move
    subst move
    exact .kept (by simp only [Daemon.slot, phase, unbuilt, DaemonPhase.works, Option.getD])
  | running =>
    obtain ⟨w, worker⟩ := Option.isSome_iff_exists.mp (sound.serving (by rw [phase]; rfl)).2.1
    simp only [Daemon.turn, phase, Turn.move.injEq] at move
    subst move
    split
    · have old : d.slot = some w := by simp only [Daemon.slot, phase, worker, DaemonPhase.works,
        Option.getD, if_true]
      exact .stopped old (by simp only [Daemon.slot, worker, DaemonPhase.works, Option.map_some,
        Option.getD, if_true])
    · exact .kept rfl
  | stopping =>
    simp only [Daemon.turn, phase, Turn.move.injEq] at move
    subst move
    exact slot_awaited

theorem slot_rejected (error : AppError) : SlotAfter d (d.rejected error) := by
  refine .dropped ?_
  unfold Daemon.rejected
  split <;> rfl

/-- A statement of a daemon other than the startup recovery. -/
theorem slot_answered (other : d.phase ≠ .recovering) :
    SlotAfter d (d.answered i) := by
  cases phase : d.phase with
  | recovering => exact absurd phase other
  | refusingAudit =>
    simp only [Daemon.answered, phase]
    exact .leave _
  | starting | simulating | refusing | refusingReason | readingJid | readingLid | attaching
  | detaching | notifying | disconnecting | parting =>
    simp only [Daemon.answered, phase]
    exact .same (by rw [phase]; rfl) rfl rfl rfl
  | _ =>
    simp only [Daemon.answered, phase]
    exact .kept rfl

/-! ## A turn of a daemon, in `Processes` -/

/-- A statement other than the startup recovery is a command, or reads. -/
theorem statement_run {t : Processes} {op : Op} {reply : Reply} (call : d.turn i = .call op)
    (other : d.phase ≠ .recovering) (ran : op.run t.db = .ok (reply, db)) :
    ∃ bs, (Processes.system platform).Run t bs { t with db := db } ∧
      bs.flatMap Action.shown = [] := by
  have command : ∀ c : Command, c.op i.wall.toISOString = op →
      ∃ bs, (Processes.system platform).Run t bs { t with db := db } ∧
        bs.flatMap Action.shown = [] := by
    intro c same
    refine ⟨[.command c i.wall], .single trivial ?_, rfl⟩
    simp only [Processes.system, Processes.step, same, ran]
  have read : ∀ key, op = .getState key →
      ∃ bs, (Processes.system platform).Run t bs { t with db := db } ∧
        bs.flatMap Action.shown = [] := by
    rintro key rfl
    cases ran
    exact ⟨[], .nil t, rfl⟩
  cases phase : d.phase with
  | starting | refusingAudit | parting =>
    simp only [Daemon.turn, phase, Turn.call.injEq] at call
    exact command (.addAudit _) call
  | recovering => exact absurd phase other
  | simulating | refusing | refusingReason | attaching =>
    simp only [Daemon.turn, phase, Turn.call.injEq] at call
    exact command (.setState _ _) call
  | readingJid | readingLid =>
    simp only [Daemon.turn, phase, Turn.call.injEq] at call
    exact read _ call.symm
  | detaching | notifying | disconnecting =>
    simp only [Daemon.turn, phase] at call
    split at call
    · exact command (.setState _ _) (Turn.call.inj call)
    · cases call
  | preparing | locking | opening | authenticating | connecting | refreshing | launching | running
  | stopping | draining | closing | unlocking | releasing | ended | abandoned =>
    simp only [Daemon.turn, phase, reduceCtorEq] at call

/-- The slot of `Processes` follows the slot of a daemon that works. -/
theorem slot_run (platform : Platform) {t : Processes} (after : SlotAfter d d')
    (works : d.phase.works = true)
    (slot : t.workers.lookup .daemon = d.slot) :
    ∃ bs t', (Processes.system platform).Run t bs t' ∧ bs.flatMap Action.shown = [] ∧
      t'.db = t.db ∧ t'.enqueues = t.enqueues ∧ t'.drawn = t.drawn ∧
      (∀ n, t'.workers.lookup (.cli n) = t.workers.lookup (.cli n)) ∧
      t'.workers.lookup .daemon = d'.slot := by
  cases after with
  | kept same => exact ⟨[], t, .nil t, rfl, rfl, rfl, rfl, fun _ => rfl, slot.trans same.symm⟩
  | @stopped w old new =>
    refine ⟨[.requestStop .daemon], { t with workers := t.workers.insert .daemon w.requestStop },
      .single trivial ?_, rfl, rfl, rfl, rfl, fun n => AList.lookup_insert_ne (by
        simp only [ne_eq, reduceCtorEq, not_false_eq_true]), ?_⟩
    · simp only [Processes.system, Processes.step, slot, old]
      rfl
    · exact (AList.lookup_insert _).trans new.symm
  | dropped gone =>
    have some_slot : ∃ w, d.slot = some w := by
      simp only [Daemon.slot, works, if_true, Option.some.injEq, exists_eq']
    obtain ⟨w, old⟩ := some_slot
    refine ⟨[.crash .daemon], { t with workers := t.workers.erase .daemon }, .single trivial ?_,
      rfl, rfl, rfl, rfl, fun n => AList.lookup_erase_ne (by
        simp only [ne_eq, reduceCtorEq, not_false_eq_true]), ?_⟩
    · simp only [Processes.system, Processes.step, slot, old]
    · exact (AList.lookup_erase _ _).trans gone.symm

theorem SlotAfter.idle (after : SlotAfter d d') (idle : d.phase.works = false) :
    d'.slot = none := by
  cases after with
  | kept same => exact same.trans (slot_none idle)
  | stopped old => cases (slot_none idle).symm.trans old
  | dropped gone => exact gone

/-- A daemon that works, and nobody else, goes on. -/
theorem Corresponds.replace {t' : Processes} {lock : ProcessLock.LockState}
    (h : Corresponds s t) (db : t'.db = db') (enqueues : t'.enqueues = t.enqueues)
    (drawn : t'.drawn = t.drawn)
    (cli : ∀ n, t'.workers.lookup (.cli n) = t.workers.lookup (.cli n))
    (slot : t'.workers.lookup .daemon = d'.slot)
    (others : ∀ q d, q ≠ pid → s.daemons.lookup q = some d → d.slot = none) :
    Corresponds { s.set pid d' with
      lock := lock, processes := { s.processes with db := db' } } t' where
  db := db
  enqueues := enqueues.trans h.enqueues
  drawn := drawn.trans h.drawn
  cli n := (cli n).trans (h.cli n)
  working found taken := by
    rcases lookup_insert_cases found with ⟨rfl, rfl⟩ | ⟨distinct, found⟩
    · exact slot.trans taken
    · cases (others _ _ distinct found).symm.trans taken
  idle none := slot.trans (none pid d' (AList.lookup_insert _))

/-- A daemon that does not work goes on without working. -/
theorem Corresponds.keep {t' : Processes} {lock : ProcessLock.LockState} (h : Corresponds s t)
    (found : s.daemons.lookup pid = some d ∨ s.daemons.lookup pid = none)
    (idle : d.slot = none) (idle' : d'.slot = none) (db : t'.db = db')
    (enqueues : t'.enqueues = t.enqueues) (drawn : t'.drawn = t.drawn)
    (workers : t'.workers = t.workers) :
    Corresponds { s.set pid d' with
      lock := lock, processes := { s.processes with db := db' } } t' where
  db := db
  enqueues := enqueues.trans h.enqueues
  drawn := drawn.trans h.drawn
  cli n := by rw [workers]; exact h.cli n
  working found' taken := by
    rcases lookup_insert_cases found' with ⟨rfl, rfl⟩ | ⟨distinct, found'⟩
    · cases idle'.symm.trans taken
    · rw [workers]
      exact h.working found' taken
  idle none := by
    rw [workers]
    refine h.idle fun q d₁ found₁ => ?_
    by_cases same : q = pid
    · subst same
      rcases found with found | absent
      · cases found.symm.trans found₁
        exact idle
      · cases absent.symm.trans found₁
    · exact none q d₁ ((AList.lookup_insert_ne same).trans found₁)

/-- While one daemon is locked no other one works. -/
theorem Single.others (h : s.Single) (found : s.daemons.lookup pid = some d)
    (locked : d.phase.locked = true) :
    ∀ q d, q ≠ pid → s.daemons.lookup q = some d → d.slot = none := by
  intro q d' distinct found'
  cases works : d'.phase.works with
  | false => exact slot_none works
  | true => exact absurd (h found' found (works_locked works) locked) distinct

/-- A turn of a daemon at its slot, after its statement. -/
theorem Corresponds.follow {t₁ : Processes} {bs : List Action} (h : Corresponds s t)
    (single : s.Single) (found : s.daemons.lookup pid = some d) (after : SlotAfter d d')
    (run : (Processes.system platform).Run t bs t₁) (hidden : bs.flatMap Action.shown = [])
    (same : t₁ = { t with db := db' }) :
    ∃ bs t', (Processes.system platform).Run t bs t' ∧
      Corresponds { s.set pid d' with processes := { s.processes with db := db' } } t' ∧
      bs.flatMap Action.shown = [] := by
  subst same
  cases works : d.phase.works with
  | false =>
    exact ⟨bs, _, run, h.keep (Or.inl found) (slot_none works)
      (after.idle works) rfl rfl rfl rfl, hidden⟩
  | true =>
    have taken : t.workers.lookup .daemon = d.slot := by
      have some_slot : ∃ w, d.slot = some w := by
        simp only [Daemon.slot, works, if_true, Option.some.injEq, exists_eq']
      obtain ⟨w, old⟩ := some_slot
      exact (h.working found old).trans old.symm
    obtain ⟨cs, t', run', hidden', db, enqueues, drawn, cli, slot⟩ :=
      slot_run platform (t := { t with db := db' }) after works taken
    refine ⟨bs ++ cs, t', run.append run', ?_, ?_⟩
    · exact h.replace db enqueues drawn cli slot
        (single.others found (works_locked works))
    · rw [List.flatMap_append, hidden, hidden', List.append_nil]

theorem Corresponds.same_db (h : Corresponds s t) : t = { t with db := s.processes.db } := by
  rw [← h.db]

/-- The startup recovery is the start of the daemon of `Processes`. -/
theorem Corresponds.recover {reply : Reply} (h : Corresponds s t) (single : s.Single)
    (sound : d.Sound) (found : s.daemons.lookup pid = some d) (phase : d.phase = .recovering)
    (ran : (Op.recoverStaleProcessing i.wall.toISOString).run s.processes.db = .ok (reply, db)) :
    ∃ bs t', (Processes.system platform).Run t bs t' ∧
      Corresponds { s.set pid (d.answered i) with processes := { s.processes with db := db } } t' ∧
      bs.flatMap Action.shown = [] := by
  have others := single.others found (by rw [phase]; rfl)
  have free : t.workers.lookup .daemon = none := by
    refine h.idle fun q d' found' => ?_
    by_cases same : q = pid
    · subst same
      cases found.symm.trans found'
      exact slot_none (by rw [phase]; rfl)
    · exact others q d' same found'
  have unbuilt := (sound.building (by rw [phase]; rfl)).2.1
  refine ⟨[.startDaemon d.config i.wall],
    { t with db := db, workers := t.workers.insert .daemon (daemonWorker d.config i.wall) },
    .single trivial ?_, ?_, rfl⟩
  · simp only [Processes.system, Processes.step, free, h.db, ran]
  · refine h.replace rfl rfl rfl (fun n => AList.lookup_insert_ne (by
      simp only [ne_eq, reduceCtorEq, not_false_eq_true])) ?_ others
    rw [AList.lookup_insert]
    simp only [Daemon.answered, phase, Daemon.slot, unbuilt, Option.getD]
    split <;> rfl

/-- A call of `runDaemon` by itself. -/
theorem Corresponds.client (h : Corresponds s t) (single : s.Single) (sound : d.Sound)
    (found : s.daemons.lookup pid = some d)
    (step : Daemon.client.step store d i s.processes.db = (d', db')) :
    ∃ bs t', (Processes.system platform).Run t bs t' ∧
      Corresponds { s.set pid d' with processes := { s.processes with db := db' } } t' ∧
      bs.flatMap Action.shown = [] := by
  rcases Client.step_cases step with ⟨move, rfl⟩ | ⟨op, error, -, -, rfl, rfl⟩ |
    ⟨op, reply, call, -, ran, rfl⟩
  · exact h.follow single found (slot_moved sound move) (.nil t) rfl h.same_db
  · exact h.follow single found (slot_rejected error) (.nil t) rfl h.same_db
  · change d.turn i = .call op at call
    by_cases recovering : d.phase = .recovering
    · simp only [Daemon.turn, recovering, Turn.call.injEq] at call
      subst call
      exact h.recover single sound found recovering ran
    · obtain ⟨bs, run, hidden⟩ := statement_run call recovering
        (by rw [h.db]; exact ran)
      exact h.follow single found (slot_answered recovering) run hidden rfl

theorem Corresponds.turn (h : Corresponds s t) (single : s.Single) (sound : d.Sound)
    (found : s.daemons.lookup pid = some d) (step : Daemons.turn s pid d i = some s') :
    ∃ bs t', (Processes.system platform).Run t bs t' ∧ Corresponds s' t' ∧
      bs.flatMap Action.shown = [] := by
  have quiet : ∀ (lock : ProcessLock.LockState) (phase : DaemonPhase), d.phase.works = false →
      phase.works = false → s' = { s.set pid (d.goto phase) with lock := lock } →
      ∃ bs t', (Processes.system platform).Run t bs t' ∧ Corresponds s' t' ∧
        bs.flatMap Action.shown = [] := by
    rintro lock phase idle idle' rfl
    exact ⟨[], t, .nil t, h.keep (Or.inl found) (slot_none idle) (slot_none idle') h.db rfl rfl rfl,
      rfl⟩
  unfold Daemons.turn at step
  cases phase : d.phase with
  | preparing =>
    simp only [phase] at step
    split at step
    · cases step
      exact quiet s.lock _ (by rw [phase]; rfl) rfl rfl
    · obtain ⟨lock, -, rfl⟩ := Option.map_eq_some_iff.mp step
      exact quiet lock _ (by rw [phase]; rfl) rfl rfl
  | locking | releasing outcome =>
    simp only [phase] at step
    obtain ⟨error, -, rfl⟩ := Option.map_eq_some_iff.mp step
    cases error <;> exact quiet s.lock _ (by rw [phase]; rfl) rfl rfl
  | unlocking outcome =>
    simp only [phase] at step
    obtain ⟨lock, -, rfl⟩ := Option.map_eq_some_iff.mp step
    exact quiet lock _ (by rw [phase]; rfl) rfl rfl
  | ended | abandoned =>
    simp only [phase, reduceCtorEq] at step
  | _ =>
    simp only [phase, Option.some.injEq] at step
    rw [← step]
    exact h.client single sound found rfl

/-! ## A turn of another party -/

/-- A turn of the worker of a daemon. -/
theorem Corresponds.worker {w : Worker} {input : WorkerInput} (h : Corresponds s t)
    (single : s.Single) (sound : d.Sound) (found : s.daemons.lookup pid = some d)
    (built : d.worker = some w) (working : w.over = false) {w' : Worker}
    (step : (QueueWorker.client platform.dates).step store w input s.processes.db = (w', db)) :
    ∃ t', (Processes.system platform).Run t [.worker .daemon input] t' ∧
      Corresponds { s.set pid { d with worker := some w' } with
        processes := { s.processes with db := db } } t' := by
  have stage := sound.working built working
  have works : ∀ d' : Daemon, d'.phase.stage = .serves → d'.phase.works = true := by
    intro d' stage
    cases phase : d'.phase <;> rw [phase] at stage <;> first | rfl | cases stage
  have slot : d.slot = some w := by
    simp only [Daemon.slot, works d stage, if_true, built, Option.getD]
  have slot' : ({ d with worker := some w' } : Daemon).slot = some w' := by
    simp only [Daemon.slot, works d stage, if_true, Option.getD]
  have taken := h.working found slot
  refine ⟨{ t with db := db, workers := t.workers.insert .daemon w' }, .single trivial ?_, ?_⟩
  · simp only [Processes.system, Processes.step, taken, h.db, step]
  · exact h.replace rfl rfl rfl (fun n => AList.lookup_insert_ne (by
      simp only [ne_eq, reduceCtorEq, not_false_eq_true]))
      ((AList.lookup_insert _).trans slot'.symm)
      (single.others found (DaemonPhase.locked_of_serves stage))

/-- What a party without a lock does to `Processes` it does to both sides. -/
theorem Corresponds.others {p : Processes} {t' : Processes} (h : Corresponds s t)
    (db : t'.db = p.db) (enqueues : t'.enqueues = p.enqueues) (drawn : t'.drawn = p.drawn)
    (cli : ∀ n, t'.workers.lookup (.cli n) = p.workers.lookup (.cli n))
    (daemon : t'.workers.lookup .daemon = t.workers.lookup .daemon) :
    Corresponds { s with processes := p } t' where
  db := db
  enqueues := enqueues
  drawn := drawn
  cli := cli
  working found taken := daemon.trans (h.working found taken)
  idle none := daemon.trans (h.idle none)

theorem cli_ne (n : Nat) : WorkerId.daemon ≠ .cli n := by
  simp only [ne_eq, reduceCtorEq, not_false_eq_true]

/-- Two maps of workers that agree on one-shot workers agree after an insertion. -/
theorem cli_insert {workers workers' : AList fun _ : WorkerId => Worker} {m : Nat} {w : Worker}
    (h : ∀ n, workers.lookup (.cli n) = workers'.lookup (.cli n)) (n : Nat) :
    (workers.insert (.cli m) w).lookup (.cli n) = (workers'.insert (.cli m) w).lookup (.cli n) := by
  by_cases same : WorkerId.cli n = .cli m
  · rw [same, AList.lookup_insert, AList.lookup_insert]
  · rw [AList.lookup_insert_ne same, AList.lookup_insert_ne same]
    exact h n

theorem cli_erase {workers workers' : AList fun _ : WorkerId => Worker} {m : Nat}
    (h : ∀ n, workers.lookup (.cli n) = workers'.lookup (.cli n)) (n : Nat) :
    (workers.erase (.cli m)).lookup (.cli n) = (workers'.erase (.cli m)).lookup (.cli n) := by
  by_cases same : WorkerId.cli n = .cli m
  · rw [same, AList.lookup_erase, AList.lookup_erase]
  · rw [AList.lookup_erase_ne same, AList.lookup_erase_ne same]
    exact h n

/-- An action that is not about the worker of a daemon. -/
theorem Corresponds.other {a : Action} {p : Processes} (h : Corresponds s t)
    (other : a.ofDaemon = false)
    (step : (Processes.system platform).step s.processes a = some p) :
    ∃ t', (Processes.system platform).Run t [a] t' ∧
      Corresponds { s with processes := p } t' := by
  have fresh : ∀ uuid, t.Fresh uuid ↔ s.processes.Fresh uuid := by
    intro uuid
    unfold Processes.Fresh
    rw [h.drawn, h.db]
  cases a with
  | startDaemon => cases other
  | worker id input =>
    cases id with
    | daemon => cases other
    | cli n =>
      obtain ⟨w, w', found, stepped, workers, enqueues, drawn⟩ := Processes.step_worker step
      refine ⟨{ t with db := p.db, workers := t.workers.insert (.cli n) w' }, .single trivial ?_,
        h.others rfl (h.enqueues.trans enqueues.symm) (h.drawn.trans drawn.symm) ?_ ?_⟩
      · simp only [Processes.system, Processes.step, h.cli n, found, h.db, stepped]
      · rw [workers]
        exact cli_insert h.cli
      · exact AList.lookup_insert_ne (cli_ne n)
  | startCli n config reference now =>
    obtain ⟨free, dryRun, rfl⟩ := Processes.step_startCli step
    refine ⟨{ t with workers := t.workers.insert (.cli n) (cliWorker config reference now) },
      .single trivial ?_, h.others h.db h.enqueues h.drawn (cli_insert h.cli)
      (AList.lookup_insert_ne (cli_ne n))⟩
    simp only [Processes.system, Processes.step, h.cli n, free, dryRun]
  | requestStop id =>
    cases id with
    | daemon => cases other
    | cli n =>
      obtain ⟨w, found, rfl⟩ := Processes.step_requestStop step
      refine ⟨{ t with workers := t.workers.insert (.cli n) { w with stopping := true } },
        .single trivial ?_, h.others h.db h.enqueues h.drawn (cli_insert h.cli)
        (AList.lookup_insert_ne (cli_ne n))⟩
      simp only [Processes.system, Processes.step, h.cli n, found]
  | crash id =>
    cases id with
    | daemon => cases other
    | cli n =>
      have alive : ∃ w, s.processes.workers.lookup (.cli n) = some w := by
        simp only [Processes.system, Processes.step] at step
        split at step
        · cases step
        · next w found => exact ⟨w, found⟩
      obtain ⟨w, found⟩ := alive
      obtain rfl := Processes.step_crash step
      refine ⟨{ t with workers := t.workers.erase (.cli n) }, .single trivial ?_,
        h.others h.db h.enqueues h.drawn (cli_erase h.cli) (AList.lookup_erase_ne (cli_ne n))⟩
      simp only [Processes.system, Processes.step, h.cli n, found]
  | submit n config request =>
    simp only [Processes.system, Processes.step] at step
    split at step
    · next free =>
      cases step
      refine ⟨{ t with enqueues := t.enqueues.insert n ⟨config, request.phase⟩ },
        .single trivial ?_, h.others h.db ?_ h.drawn h.cli rfl⟩
      · simp only [Processes.system, Processes.step, h.enqueues, free]
      · rw [h.enqueues]
    · cases step
  | enqueue n input =>
    obtain ⟨e, e', found, unspent, stepped, enqueues, workers, drawn⟩ :=
      Processes.step_enqueue step
    refine ⟨{ t with
      db := p.db, enqueues := t.enqueues.insert n e',
      drawn := if e.draws then input.uuid :: t.drawn else t.drawn }, .single trivial ?_,
      h.others rfl ?_ ?_ ?_ rfl⟩
    · have spent : ¬(e.draws ∧ ¬t.Fresh input.uuid) := by
        rw [fresh]
        exact fun stale => stale.2 (unspent stale.1)
      simp only [Processes.system, Processes.step, h.enqueues, found, spent, if_false, h.db,
        stepped]
    · rw [h.enqueues, enqueues]
    · rw [h.drawn, drawn]
    · rw [workers]
      exact h.cli
  | abandon n =>
    simp only [Processes.system, Processes.step] at step
    split at step
    · cases step
    · next e found =>
      cases step
      refine ⟨{ t with enqueues := t.enqueues.erase n }, .single trivial ?_,
        h.others h.db ?_ h.drawn h.cli rfl⟩
      · simp only [Processes.system, Processes.step, h.enqueues, found]
      · rw [h.enqueues]
  | command command now =>
    simp only [Processes.system, Processes.step] at step
    split at step
    · cases step
    · next reply db ran =>
      cases step
      refine ⟨{ t with db := db }, .single trivial ?_,
        h.others rfl h.enqueues h.drawn h.cli rfl⟩
      simp only [Processes.system, Processes.step, h.db, ran]

/-! ## The refinement -/

/-- No `acquire` takes the lock file from under a live process. -/
def Spares (s : Daemons) : DaemonsAction → Prop
  | .lock pid input => ProcessLock.SparesOwned s.lock (.turn pid input)
  | _ => True

instance (s : Daemons) : (a : DaemonsAction) → Decidable (s.Spares a)
  | .lock pid input =>
    inferInstanceAs (Decidable (ProcessLock.SparesOwned s.lock (.turn pid input)))
  | .spawn _ | .spawnDaemon _ _ _ _ | .exit _ | .daemon _ _ | .worker _ _ | .other _ =>
    inferInstanceAs (Decidable True)

/-- What the refinement rests on. -/
structure Governed (s : Daemons) : Prop where
  orderly : s.Orderly
  guarded : ProcessLock.Guarded s.lock

/-- What a turn of a daemon does to the lock: nothing, or it enters a method. -/
theorem turn_lock (step : Daemons.turn s pid d i = some s') :
    s'.lock = s.lock ∨ ∃ a, ProcessLock.step s.lock a = some s'.lock ∧
      ProcessLock.removes s.lock a = false := by
  unfold Daemons.turn at step
  cases phase : d.phase with
  | preparing =>
    simp only [phase] at step
    split at step
    · cases step
      exact Or.inl rfl
    · obtain ⟨lock, entered, rfl⟩ := Option.map_eq_some_iff.mp step
      exact Or.inr ⟨_, entered, rfl⟩
  | unlocking outcome =>
    simp only [phase] at step
    obtain ⟨lock, entered, rfl⟩ := Option.map_eq_some_iff.mp step
    exact Or.inr ⟨_, entered, rfl⟩
  | locking | releasing outcome =>
    simp only [phase] at step
    obtain ⟨error, -, rfl⟩ := Option.map_eq_some_iff.mp step
    cases error <;> exact Or.inl rfl
  | ended | abandoned =>
    simp only [phase, reduceCtorEq] at step
  | _ =>
    simp only [phase, Option.some.injEq] at step
    rw [← step]
    exact Or.inl rfl

theorem spares_of_keeps {lock : ProcessLock.LockState} {a : ProcessLock.Action}
    (h : ProcessLock.removes lock a = false) : ProcessLock.SparesOwned lock a := by
  intro removes
  cases h.symm.trans removes

theorem Governed.preserved : (system platform).Preserves Spares Governed := by
  intro s a t h spares step
  refine ⟨Orderly.preserved h.orderly trivial step, ?_⟩
  cases a with
  | spawn pid | spawnDaemon pid config enabled now =>
    obtain ⟨lock, spawned, rfl⟩ := Option.map_eq_some_iff.mp step
    exact h.guarded.step (a := .spawn pid) (spares_of_keeps rfl) spawned
  | exit pid =>
    obtain ⟨lock, ended, rfl⟩ := Option.map_eq_some_iff.mp step
    exact h.guarded.step (a := .exit pid) (spares_of_keeps rfl) ended
  | lock pid input =>
    obtain ⟨lock, turned, rfl⟩ := Option.map_eq_some_iff.mp step
    exact h.guarded.step spares turned
  | daemon pid input =>
    simp only [system, Daemons.step] at step
    split at step
    · cases step
    · rcases turn_lock step with same | ⟨a, step, keeps⟩
      · rw [same]
        exact h.guarded
      · exact h.guarded.step (spares_of_keeps keeps) step
  | worker pid input =>
    simp only [system, Daemons.step] at step
    split at step
    · cases step
    · split at step
      · cases step
      · split at step
        · cases step
        · cases step
          exact h.guarded
  | other action =>
    simp only [system, Daemons.step] at step
    split at step
    · cases step
    · obtain ⟨processes, -, rfl⟩ := Option.map_eq_some_iff.mp step
      exact h.guarded

/-- A PID that is free is the PID of no daemon. -/
theorem Orderly.absent {lock : ProcessLock.LockState} (h : s.Orderly)
    (step : ProcessLock.step s.lock (.spawn pid) = some lock) : s.daemons.lookup pid = none := by
  cases found : s.daemons.lookup pid with
  | none => rfl
  | some d =>
    obtain ⟨proc, found', -⟩ := h.locked found
    cases (ProcessLock.step_spawn step).1.symm.trans found'

/-- The end of a process is the end of its worker. -/
theorem Corresponds.exit {lock : ProcessLock.LockState} (h : Corresponds s t)
    (single : s.Single) :
    ∃ bs t', (Processes.system platform).Run t bs t' ∧
      Corresponds { s with lock := lock, daemons := s.daemons.erase pid } t' ∧
      bs.flatMap Action.shown = [] := by
  have lookup : ∀ {q d}, (s.daemons.erase pid).lookup q = some d →
      q ≠ pid ∧ s.daemons.lookup q = some d := by
    intro q d found
    by_cases same : q = pid
    · subst same
      rw [AList.lookup_erase] at found
      cases found
    · exact ⟨same, (AList.lookup_erase_ne same).symm.trans found⟩
  by_cases taken : ∃ d w, s.daemons.lookup pid = some d ∧ d.slot = some w
  · obtain ⟨d, w, found, slot⟩ := taken
    have others := single.others found (works_locked (slot_some slot))
    refine ⟨[.crash .daemon], { t with workers := t.workers.erase .daemon }, .single trivial ?_,
      ⟨h.db, h.enqueues, h.drawn, fun n => (AList.lookup_erase_ne (cli_ne n).symm).trans (h.cli n),
        ?_, fun _ => AList.lookup_erase _ _⟩, rfl⟩
    · simp only [Processes.system, Processes.step, h.working found slot]
    · intro q d' w' found' taken
      obtain ⟨distinct, found'⟩ := lookup found'
      cases (others q d' distinct found').symm.trans taken
  · refine ⟨[], t, .nil t, ⟨h.db, h.enqueues, h.drawn, h.cli, ?_, ?_⟩, rfl⟩
    · intro q d w found slot
      exact h.working (lookup found).2 slot
    · intro none
      refine h.idle fun q d found => ?_
      by_cases same : q = pid
      · subst same
        cases slot : d.slot with
        | none => rfl
        | some w => exact absurd ⟨d, w, found, slot⟩ taken
      · exact none q d ((AList.lookup_erase_ne same).trans found)

theorem simulates : Simulates (system platform) Spares (Processes.system platform)
    (fun s t => s.Governed ∧ Corresponds s t) DaemonsAction.shown Action.shown := by
  refine .under Governed.preserved ?_
  intro s s' a t governed h spares step governed'
  have single : s.Single := governed.orderly.single governed.guarded
  cases a with
  | spawn pid =>
    obtain ⟨lock, -, rfl⟩ := Option.map_eq_some_iff.mp step
    exact ⟨[], t, .nil t, ⟨h.db, h.enqueues, h.drawn, h.cli, h.working, h.idle⟩, rfl⟩
  | lock pid input =>
    obtain ⟨lock, -, rfl⟩ := Option.map_eq_some_iff.mp step
    exact ⟨[], t, .nil t, ⟨h.db, h.enqueues, h.drawn, h.cli, h.working, h.idle⟩, rfl⟩
  | spawnDaemon pid config enabled now =>
    obtain ⟨lock, spawned, rfl⟩ := Option.map_eq_some_iff.mp step
    exact ⟨[], t, .nil t, h.keep (Or.inr (governed.orderly.absent spawned))
      (slot_none (d := .started config enabled now) rfl) rfl h.db rfl rfl rfl, rfl⟩
  | exit pid =>
    obtain ⟨lock, -, rfl⟩ := Option.map_eq_some_iff.mp step
    exact h.exit single
  | daemon pid input =>
    simp only [system, Daemons.step] at step
    split at step
    · cases step
    · next d found => exact h.turn single (governed.orderly.sound found) found step
  | worker pid input =>
    simp only [system, Daemons.step] at step
    split at step
    · cases step
    · next d found =>
      split at step
      · cases step
      · next w built =>
        split at step
        · cases step
        · next working =>
          cases step
          have turned : (QueueWorker.client platform.dates).step store w input s.processes.db =
            (_, _) := rfl
          obtain ⟨t', run, h'⟩ := h.worker single (governed.orderly.sound found) found built
            (Bool.eq_false_of_not_eq_true working) turned
          exact ⟨_, t', run, h', rfl⟩
  | other action =>
    simp only [system, Daemons.step] at step
    split at step
    · cases step
    · next other =>
      obtain ⟨p, acted, rfl⟩ := Option.map_eq_some_iff.mp step
      obtain ⟨t', run, h'⟩ := h.other (Bool.eq_false_of_not_eq_true other) acted
      exact ⟨_, t', run, h', List.append_nil _⟩

theorem Start.corresponds (h : Start s) : Corresponds s s.processes where
  db := rfl
  enqueues := rfl
  drawn := rfl
  cli _ := rfl
  working found := by
    rw [h.2.1] at found
    cases found
  idle _ := by
    rw [h.2.2.1]
    rfl

/-- **Every run of any number of daemons behind the lock is a run of one daemon
at a time**: it ends with the same database, and workers and calls of the
message service have taken the same turns in the same order. -/
theorem run_as_one_daemon {s₀ : Daemons} {as : List DaemonsAction} (start : Start s₀)
    (run : (system platform).RunWhere Spares s₀ as s) :
    ∃ bs t, (Processes.system platform).Run s₀.processes bs t ∧ s.Corresponds t ∧
      bs.flatMap Action.shown = as.flatMap DaemonsAction.shown ∧ s.Single := by
  have governed₀ : s₀.Governed := ⟨start.orderly, start.1.guarded⟩
  obtain ⟨bs, t, run', ⟨governed, related⟩, shown⟩ :=
    simulates.run run ⟨governed₀, start.corresponds⟩
  exact ⟨bs, t, run', related, shown, governed.orderly.single governed.guarded⟩

/-- The first of two daemons does its job and stops, and a third one takes over. -/
theorem run_as_one_daemon_handover :
    ∃ s, (system Example.platform).RunWhere Spares installed handover s ∧
      (∃ bs t, (Processes.system Example.platform).Run installed.processes bs t ∧
        s.Corresponds t ∧ bs.flatMap Action.shown = handover.flatMap DaemonsAction.shown ∧
        s.Single) ∧
      s.processes.db.jobs.rows.map QueueJob.status = [.DRY_RUN] ∧
      (s.daemons.lookup 3).any (fun d => d.phase.works) = true := by
  have ran : (((system Example.platform).execWhere Spares installed handover).any fun s =>
      decide (s.processes.db.jobs.rows.map QueueJob.status = [.DRY_RUN]) &&
        (s.daemons.lookup 3).any fun d => d.phase.works) = true := by
    decide +kernel
  obtain ⟨s, executed, holds⟩ := (Option.any_eq_true _ _).mp ran
  obtain ⟨settled, works⟩ := (Bool.and_eq_true _ _).mp holds
  have run := System.runWhere_of_execWhere executed
  exact ⟨s, run, run_as_one_daemon installed_start run, of_decide_eq_true settled, works⟩

end Daemons

end WhatsappBot
