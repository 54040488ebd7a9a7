import WhatsappBot.Db.Lifecycle
import WhatsappBot.Messaging.WorkerSteps
import WhatsappBot.Runtime.Processes

/-!
# What an action can be

The case analysis of `Processes.step`, done once: which operation an action
commits (`Commits`, `step_db`) and where each worker of the new state comes
from (`WorkerAfter`, `worker_after`).
-/

namespace WhatsappBot

open Lib.SharedStore Lib.Transition

/-- The call of the message service that an action is about. -/
def Action.call : Action → Option Nat
  | .submit n _ _ | .enqueue n _ | .abandon n => some n
  | _ => none

namespace Processes

variable (platform : Platform)

/-- The operation that an action commits when it commits one. -/
inductive Commits (s : Processes) : Action → Op → Prop where
  | worker {id : WorkerId} {input : WorkerInput} {w : Worker} {op : Op}
    (found : s.workers.lookup id = some w) (turn : QueueWorker.turn w input = .call op)
    (fails : input.fails = false) : Commits s (.worker id input) op
  | recovery (config : AppConfig) (now : Date) (free : s.workers.lookup .daemon = none) :
    Commits s (.startDaemon config now) (.recoverStaleProcessing now.toISOString)
  | enqueue {n : Nat} {input : EnqueueInput} {e : Enqueue} {op : Op}
    (found : s.enqueues.lookup n = some e)
    (turn : MessageService.turn platform.keys e input = .call op) (fails : input.fails = false) :
    Commits s (.enqueue n input) op
  | command (command : Command) (now : Date) :
    Commits s (.command command now) (command.op now.toISOString)

/-- Where a worker of the new state comes from. -/
inductive WorkerAfter (s t : Processes) (a : Action) (id : WorkerId) (w' : Worker) : Prop where
  | kept (found : s.workers.lookup id = some w') (other : ∀ input, a ≠ .worker id input)
  | turned {input : WorkerInput} {w : Worker} (action : a = .worker id input)
    (found : s.workers.lookup id = some w)
    (step : (QueueWorker.client platform.dates).step store w input s.db = (w', t.db))
  | stopped {w : Worker} (action : a = .requestStop id) (found : s.workers.lookup id = some w)
    (worker : w' = { w with stopping := true })
  | daemon {config : AppConfig} {now : Date} (action : a = .startDaemon config now)
    (party : id = .daemon) (worker : w' = daemonWorker config now)
  | cli {n : Nat} {config : AppConfig} {reference : Option String} {now : Date}
    (action : a = .startCli n config reference now) (party : id = .cli n)
    (dryRun : config.dryRun = true) (worker : w' = cliWorker config reference now)

/-- Where a call of the message service in the new state comes from. -/
inductive EnqueueAfter (s t : Processes) (a : Action) (n : Nat) (e' : Enqueue) : Prop where
  | kept (found : s.enqueues.lookup n = some e') (other : a.call ≠ some n)
  | turned {input : EnqueueInput} {e : Enqueue} (action : a = .enqueue n input)
    (found : s.enqueues.lookup n = some e) (fresh : e.draws → s.Fresh input.uuid)
    (step : (MessageService.client platform.keys).step store e input s.db = (e', t.db))
    (drawn : t.drawn = if e.draws then input.uuid :: s.drawn else s.drawn)
  | submitted {config : AppConfig} {request : Request} (action : a = .submit n config request)
    (call : e' = ⟨config, request.phase⟩)

variable {platform} {s t : Processes} {a : Action}

theorem step_worker {id : WorkerId} {input : WorkerInput}
    (h : (system platform).step s (.worker id input) = some t) :
    ∃ w w', s.workers.lookup id = some w ∧
      (QueueWorker.client platform.dates).step store w input s.db = (w', t.db) ∧
      t.workers = s.workers.insert id w' ∧ t.enqueues = s.enqueues ∧ t.drawn = s.drawn := by
  simp only [system, step] at h
  cases found : s.workers.lookup id with
  | none => simp only [found, reduceCtorEq] at h
  | some w =>
    simp only [found, Option.some.injEq] at h
    subst h
    exact ⟨w, _, rfl, rfl, rfl, rfl, rfl⟩

theorem step_enqueue {n : Nat} {input : EnqueueInput}
    (h : (system platform).step s (.enqueue n input) = some t) :
    ∃ e e', s.enqueues.lookup n = some e ∧ (e.draws → s.Fresh input.uuid) ∧
      (MessageService.client platform.keys).step store e input s.db = (e', t.db) ∧
      t.enqueues = s.enqueues.insert n e' ∧ t.workers = s.workers ∧
      t.drawn = if e.draws then input.uuid :: s.drawn else s.drawn := by
  simp only [system, step] at h
  cases found : s.enqueues.lookup n with
  | none => simp only [found, reduceCtorEq] at h
  | some e =>
    simp only [found] at h
    split at h
    · cases h
    · next unspent =>
      cases h
      refine ⟨e, _, rfl, ?_, rfl, rfl, rfl, rfl⟩
      intro draws
      by_contra stale
      exact unspent ⟨draws, stale⟩

theorem step_startDaemon {config : AppConfig} {now : Date}
    (h : (system platform).step s (.startDaemon config now) = some t) :
    s.workers.lookup .daemon = none ∧
      (∃ reply, (Op.recoverStaleProcessing now.toISOString).run s.db = .ok (reply, t.db)) ∧
      t.workers = s.workers.insert .daemon (daemonWorker config now) ∧
      t.enqueues = s.enqueues ∧ t.drawn = s.drawn := by
  simp only [system, step] at h
  split at h
  · next reply db free recovered =>
    cases h
    exact ⟨free, ⟨reply, recovered⟩, rfl, rfl, rfl⟩
  · cases h

theorem step_startCli {n : Nat} {config : AppConfig} {reference : Option String} {now : Date}
    (h : (system platform).step s (.startCli n config reference now) = some t) :
    s.workers.lookup (.cli n) = none ∧ config.dryRun = true ∧
      t = { s with workers := s.workers.insert (.cli n) (cliWorker config reference now) } := by
  simp only [system, step] at h
  split at h
  · next free dryRun =>
    cases h
    exact ⟨free, dryRun, rfl⟩
  · cases h

theorem step_requestStop {id : WorkerId} (h : (system platform).step s (.requestStop id) = some t) :
    ∃ w, s.workers.lookup id = some w ∧
      t = { s with workers := s.workers.insert id { w with stopping := true } } := by
  simp only [system, step] at h
  split at h
  · cases h
  · next w found =>
    cases h
    exact ⟨w, found, rfl⟩

theorem step_crash {id : WorkerId} (h : (system platform).step s (.crash id) = some t) :
    t = { s with workers := s.workers.erase id } := by
  simp only [system, step] at h
  split at h
  · cases h
  · cases h
    rfl

theorem step_submit {n : Nat} {config : AppConfig} {request : Request}
    (h : (system platform).step s (.submit n config request) = some t) :
    t = { s with enqueues := s.enqueues.insert n ⟨config, request.phase⟩ } := by
  simp only [system, step] at h
  split at h
  · cases h
    rfl
  · cases h

theorem step_abandon {n : Nat} (h : (system platform).step s (.abandon n) = some t) :
    t = { s with enqueues := s.enqueues.erase n } := by
  simp only [system, step] at h
  split at h
  · cases h
  · cases h
    rfl

theorem step_command {command : Command} {now : Date}
    (h : (system platform).step s (.command command now) = some t) :
    (∃ reply, (command.op now.toISOString).run s.db = .ok (reply, t.db)) ∧
      t.workers = s.workers ∧ t.enqueues = s.enqueues ∧ t.drawn = s.drawn := by
  simp only [system, step] at h
  split at h
  · cases h
  · next reply db ran =>
    cases h
    exact ⟨⟨reply, ran⟩, rfl, rfl, rfl⟩

/-- **What an action does to the database**: nothing, or one operation of its own. -/
theorem step_db (h : (system platform).step s a = some t) :
    t.db = s.db ∨ ∃ op reply, Commits platform s a op ∧ op.run s.db = .ok (reply, t.db) := by
  cases a with
  | worker id input =>
    obtain ⟨w, w', found, turned, -⟩ := step_worker h
    rcases Client.step_cases turned with ⟨-, same⟩ | ⟨_, _, -, -, -, same⟩ |
      ⟨op, reply, call, granted, ran, -⟩
    · exact Or.inl same
    · exact Or.inl same
    · exact Or.inr ⟨op, reply, .worker found call (QueueWorker.fails_of_granted granted), ran⟩
  | enqueue n input =>
    obtain ⟨e, e', found, -, turned, -⟩ := step_enqueue h
    rcases Client.step_cases turned with ⟨-, same⟩ | ⟨_, _, -, -, -, same⟩ |
      ⟨op, reply, call, granted, ran, -⟩
    · exact Or.inl same
    · exact Or.inl same
    · exact Or.inr ⟨op, reply, .enqueue found call (MessageService.fails_of_granted granted), ran⟩
  | startDaemon config now =>
    obtain ⟨free, ⟨reply, recovered⟩, -⟩ := step_startDaemon h
    exact Or.inr ⟨_, reply, .recovery config now free, recovered⟩
  | command command now =>
    obtain ⟨⟨reply, ran⟩, -⟩ := step_command h
    exact Or.inr ⟨_, reply, .command command now, ran⟩
  | startCli =>
    obtain ⟨-, -, rfl⟩ := step_startCli h
    exact Or.inl rfl
  | requestStop =>
    obtain ⟨_, -, rfl⟩ := step_requestStop h
    exact Or.inl rfl
  | crash =>
    rw [step_crash h]
    exact Or.inl rfl
  | submit =>
    rw [step_submit h]
    exact Or.inl rfl
  | abandon =>
    rw [step_abandon h]
    exact Or.inl rfl

theorem step_effect (h : (system platform).step s a = some t) :
    t.db = s.db ∨ ∃ op, Commits platform s a op ∧ op.Effect s.db t.db := by
  rcases step_db h with same | ⟨op, reply, commits, ran⟩
  · exact Or.inl same
  · exact Or.inr ⟨op, commits, Op.run_effect ran⟩

/-- **Where the workers of the new state come from.** -/
theorem worker_after {id : WorkerId} {w' : Worker} (h : (system platform).step s a = some t)
    (found : t.workers.lookup id = some w') : WorkerAfter platform s t a id w' := by
  cases a with
  | worker id' input =>
    obtain ⟨w, w'', found', turned, workers, -⟩ := step_worker h
    rw [workers] at found
    by_cases same : id = id'
    · subst same
      rw [AList.lookup_insert] at found
      cases found
      exact .turned rfl found' turned
    · rw [AList.lookup_insert_ne same] at found
      refine .kept found ?_
      intro input' heq
      cases heq
      exact same rfl
  | startDaemon config now =>
    obtain ⟨-, -, workers, -⟩ := step_startDaemon h
    rw [workers] at found
    by_cases same : id = .daemon
    · subst same
      rw [AList.lookup_insert] at found
      cases found
      exact .daemon rfl rfl rfl
    · rw [AList.lookup_insert_ne same] at found
      exact .kept found (by simp only [ne_eq, reduceCtorEq, not_false_eq_true, implies_true])
  | startCli n config reference now =>
    obtain ⟨-, dryRun, rfl⟩ := step_startCli h
    by_cases same : id = .cli n
    · subst same
      rw [AList.lookup_insert] at found
      cases found
      exact .cli rfl rfl dryRun rfl
    · rw [AList.lookup_insert_ne same] at found
      exact .kept found (by simp only [ne_eq, reduceCtorEq, not_false_eq_true, implies_true])
  | requestStop id' =>
    obtain ⟨w, found', rfl⟩ := step_requestStop h
    by_cases same : id = id'
    · subst same
      rw [AList.lookup_insert] at found
      cases found
      exact .stopped rfl found' rfl
    · rw [AList.lookup_insert_ne same] at found
      exact .kept found (by simp only [ne_eq, reduceCtorEq, not_false_eq_true, implies_true])
  | crash id' =>
    rw [step_crash h] at found
    by_cases same : id = id'
    · subst same
      rw [AList.lookup_erase] at found
      cases found
    · rw [AList.lookup_erase_ne same] at found
      exact .kept found (by simp only [ne_eq, reduceCtorEq, not_false_eq_true, implies_true])
  | submit =>
    rw [step_submit h] at found
    exact .kept found (by simp only [ne_eq, reduceCtorEq, not_false_eq_true, implies_true])
  | enqueue =>
    obtain ⟨_, _, -, -, -, -, workers, -⟩ := step_enqueue h
    rw [workers] at found
    exact .kept found (by simp only [ne_eq, reduceCtorEq, not_false_eq_true, implies_true])
  | abandon =>
    rw [step_abandon h] at found
    exact .kept found (by simp only [ne_eq, reduceCtorEq, not_false_eq_true, implies_true])
  | command =>
    obtain ⟨-, workers, -⟩ := step_command h
    rw [workers] at found
    exact .kept found (by simp only [ne_eq, reduceCtorEq, not_false_eq_true, implies_true])

/-- A worker that does not take the step and does not crash is at most told to stop. -/
theorem worker_stays {id : WorkerId} {w : Worker} (h : (system platform).step s a = some t)
    (found : s.workers.lookup id = some w) (other : ∀ input, a ≠ .worker id input)
    (alive : a ≠ .crash id) :
    ∃ stopping, t.workers.lookup id = some { w with stopping := stopping } := by
  cases a with
  | worker id' input =>
    obtain ⟨_, _, -, -, workers, -⟩ := step_worker h
    refine ⟨w.stopping, ?_⟩
    rw [workers, AList.lookup_insert_ne, found]
    rintro rfl
    exact other input rfl
  | startDaemon config now =>
    obtain ⟨free, -, workers, -⟩ := step_startDaemon h
    refine ⟨w.stopping, ?_⟩
    rw [workers, AList.lookup_insert_ne, found]
    rintro rfl
    cases free.symm.trans found
  | startCli n config reference now =>
    obtain ⟨free, -, rfl⟩ := step_startCli h
    refine ⟨w.stopping, ?_⟩
    rw [AList.lookup_insert_ne, found]
    rintro rfl
    cases free.symm.trans found
  | requestStop id' =>
    obtain ⟨w', found', rfl⟩ := step_requestStop h
    by_cases same : id = id'
    · subst same
      cases found.symm.trans found'
      exact ⟨true, AList.lookup_insert _⟩
    · refine ⟨w.stopping, ?_⟩
      rw [AList.lookup_insert_ne same, found]
  | crash id' =>
    refine ⟨w.stopping, ?_⟩
    rw [step_crash h, AList.lookup_erase_ne, found]
    rintro rfl
    exact alive rfl
  | submit =>
    rw [step_submit h]
    exact ⟨w.stopping, found⟩
  | enqueue =>
    obtain ⟨_, _, -, -, -, -, workers, -⟩ := step_enqueue h
    rw [workers]
    exact ⟨w.stopping, found⟩
  | abandon =>
    rw [step_abandon h]
    exact ⟨w.stopping, found⟩
  | command =>
    obtain ⟨-, workers, -⟩ := step_command h
    rw [workers]
    exact ⟨w.stopping, found⟩

theorem call_elsewhere {n : Nat} (h : (system platform).step s a = some t)
    (other : a.call ≠ some n) : t.enqueues.lookup n = s.enqueues.lookup n := by
  cases a with
  | enqueue n' input =>
    obtain ⟨_, _, -, -, -, enqueues, -⟩ := step_enqueue h
    rw [enqueues, AList.lookup_insert_ne fun same => other (congrArg some same.symm)]
  | submit n' config request =>
    rw [step_submit h]
    exact AList.lookup_insert_ne fun same => other (congrArg some same.symm)
  | abandon n' =>
    rw [step_abandon h]
    exact AList.lookup_erase_ne fun same => other (congrArg some same.symm)
  | worker =>
    obtain ⟨_, _, -, -, -, enqueues, -⟩ := step_worker h
    rw [enqueues]
  | startDaemon =>
    obtain ⟨-, -, -, enqueues, -⟩ := step_startDaemon h
    rw [enqueues]
  | startCli =>
    obtain ⟨-, -, rfl⟩ := step_startCli h
    rfl
  | requestStop =>
    obtain ⟨_, -, rfl⟩ := step_requestStop h
    rfl
  | crash => rw [step_crash h]
  | command =>
    obtain ⟨-, -, enqueues, -⟩ := step_command h
    rw [enqueues]

/-- **Where the calls of the message service in the new state come from.** -/
theorem enqueue_after {n : Nat} {e' : Enqueue} (h : (system platform).step s a = some t)
    (found : t.enqueues.lookup n = some e') : EnqueueAfter platform s t a n e' := by
  by_cases own : a.call = some n
  · cases a with
    | enqueue n' input =>
      cases own
      obtain ⟨e, e'', found', fresh, turned, enqueues, -, drawn⟩ := step_enqueue h
      rw [enqueues, AList.lookup_insert] at found
      cases found
      exact .turned rfl found' fresh turned drawn
    | submit n' config request =>
      cases own
      rw [step_submit h, AList.lookup_insert] at found
      cases found
      exact .submitted rfl rfl
    | abandon n' =>
      cases own
      rw [step_abandon h, AList.lookup_erase] at found
      cases found
    | worker | startDaemon | startCli | requestStop | crash | command => cases own
  · exact .kept (call_elsewhere h own ▸ found) own

theorem drawn_after (h : (system platform).step s a = some t) :
    t.drawn = s.drawn ∨ ∃ n input e, a = .enqueue n input ∧ s.enqueues.lookup n = some e ∧
      e.draws = true ∧ t.drawn = input.uuid :: s.drawn := by
  cases a with
  | enqueue n input =>
    obtain ⟨e, -, found, -, -, -, -, drawn⟩ := step_enqueue h
    cases draws : e.draws with
    | true => exact Or.inr ⟨n, input, e, rfl, found, draws, by rw [drawn, draws, if_pos rfl]⟩
    | false =>
      rw [draws, if_neg Bool.false_ne_true] at drawn
      exact Or.inl drawn
  | worker =>
    obtain ⟨_, _, -, -, -, -, drawn⟩ := step_worker h
    exact Or.inl drawn
  | startDaemon =>
    obtain ⟨-, -, -, -, drawn⟩ := step_startDaemon h
    exact Or.inl drawn
  | startCli =>
    obtain ⟨-, -, rfl⟩ := step_startCli h
    exact Or.inl rfl
  | requestStop =>
    obtain ⟨_, -, rfl⟩ := step_requestStop h
    exact Or.inl rfl
  | crash =>
    rw [step_crash h]
    exact Or.inl rfl
  | submit =>
    rw [step_submit h]
    exact Or.inl rfl
  | abandon =>
    rw [step_abandon h]
    exact Or.inl rfl
  | command =>
    obtain ⟨-, -, -, drawn⟩ := step_command h
    exact Or.inl drawn

end Processes

end WhatsappBot
