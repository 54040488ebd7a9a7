import WhatsappBot.Messaging.BatchJobs
import WhatsappBot.Whatsapp.BulkControllerCommands

/-!
# Bulk sends

The processes together with calls of the bulk message service. Between two
turns of such a call any process may act; only the bulk service passes a batch
id, so a plain call of the message service has none.
-/

namespace WhatsappBot

open Lib.Relational Lib.SharedStore Lib.Transition

inductive BulkAction where
  | process (action : Action)
  /-- A call of `BulkMessageService.enqueue`. -/
  | start (n : Nat) (config : AppConfig) (request : BulkEnqueueRequest)
  | command (n : Nat) (config : AppConfig) (command : BulkCommand)
  | bulk (n : Nat) (input : EnqueueInput)
  /-- The end of a call, at any point. -/
  | abandonBulk (n : Nat)

/-- The processes and the calls of the bulk message service. -/
structure BulkSends where
  processes : Processes
  bulks : AList fun _ : Nat => Bulk

namespace BulkSends

variable (platform : Platform) (codec : JidCodec)

/-- Whether an action of a process passes no batch id. -/
def plain : Action → Bool
  | .submit _ _ request => request.batchId.isNone
  | _ => true

/-- `randomUUID` has not returned this UUID before, for a job or for a batch. -/
def Fresh (s : BulkSends) (uuid : Uuid) : Prop :=
  s.processes.Fresh uuid ∧ ∀ job ∈ s.processes.db.jobs.rows, job.batchId ≠ some uuid.text

instance (s : BulkSends) (uuid : Uuid) : Decidable (s.Fresh uuid) :=
  inferInstanceAs (Decidable (_ ∧ _))

/-- The state with one more call, when its number is free. -/
def startBulk (s : BulkSends) (n : Nat) (config : AppConfig) (request : BulkEnqueueRequest) :
    Option BulkSends :=
  match s.bulks.lookup n with
  | some _ => none
  | none => some { s with bulks := s.bulks.insert n ⟨config, request, .creating⟩ }

def step (s : BulkSends) : BulkAction → Option BulkSends
  | .process action =>
    if plain action then
      (Processes.step platform s.processes action).map fun processes =>
        { s with processes := processes }
    else none
  | .start n config request => s.startBulk n config request
  | .command n config command =>
    match command.outcome codec s.processes.db with
    | .ok (.enqueue request) => s.startBulk n config request
    | .ok (.reply _) | .error _ => some s
  | .bulk n input =>
    match s.bulks.lookup n with
    | none => none
    | some b =>
      if b.draws ∧ ¬s.Fresh input.uuid then none
      else
        let (b', db) := b.step platform.keys input s.processes.db
        some
          { processes := { s.processes with
              db := db
              drawn := if b.draws then input.uuid :: s.processes.drawn else s.processes.drawn }
            bulks := s.bulks.insert n b' }
  | .abandonBulk n =>
    match s.bulks.lookup n with
    | none => none
    | some _ => some { s with bulks := s.bulks.erase n }

def system : System BulkSends BulkAction where
  step := step platform codec

/-- No process is alive and no bulk call is in flight; the tables are arbitrary. -/
def Start (s : BulkSends) : Prop := s.processes.Start ∧ s.bulks = ∅

/-! ## What an action can be -/

/-- Where a bulk call of the new state comes from. -/
inductive BulkAfter (s t : BulkSends) (a : BulkAction) (n : Nat) (b' : Bulk) : Prop where
  | kept (found : s.bulks.lookup n = some b') (other : ∀ input, a ≠ .bulk n input)
  | turned {input : EnqueueInput} {b : Bulk} (action : a = .bulk n input)
    (found : s.bulks.lookup n = some b) (fresh : b.draws → s.Fresh input.uuid)
    (step : b.step platform.keys input s.processes.db = (b', t.processes.db))
    (drawn : t.processes.drawn =
      if b.draws then input.uuid :: s.processes.drawn else s.processes.drawn)
  | started (phase : b'.phase = .creating)

variable {platform codec} {s t : BulkSends} {a : BulkAction}

theorem step_process {action : Action}
    (h : (system platform codec).step s (.process action) = some t) :
    plain action = true ∧
      (Processes.system platform).step s.processes action = some t.processes ∧
      t.bulks = s.bulks := by
  simp only [system, step] at h
  split at h
  · next plain =>
    obtain ⟨processes, stepped, rfl⟩ := Option.map_eq_some_iff.mp h
    exact ⟨plain, stepped, rfl⟩
  · cases h

theorem step_bulk {n : Nat} {input : EnqueueInput}
    (h : (system platform codec).step s (.bulk n input) = some t) :
    ∃ b b', s.bulks.lookup n = some b ∧ (b.draws → s.Fresh input.uuid) ∧
      b.step platform.keys input s.processes.db = (b', t.processes.db) ∧
      t.bulks = s.bulks.insert n b' ∧ t.processes.enqueues = s.processes.enqueues ∧
      t.processes.drawn =
        if b.draws then input.uuid :: s.processes.drawn else s.processes.drawn := by
  simp only [system, step] at h
  cases found : s.bulks.lookup n with
  | none => simp only [found, reduceCtorEq] at h
  | some b =>
    simp only [found] at h
    split at h
    · cases h
    · next unspent =>
      cases h
      refine ⟨b, _, rfl, ?_, rfl, rfl, rfl, rfl⟩
      intro draws
      by_contra stale
      exact unspent ⟨draws, stale⟩

theorem startBulk_eq {n : Nat} {config : AppConfig} {request : BulkEnqueueRequest}
    (h : s.startBulk n config request = some t) :
    t = { s with bulks := s.bulks.insert n ⟨config, request, .creating⟩ } := by
  unfold startBulk at h
  split at h
  · cases h
  · cases h
    rfl

/-- A command changes at most the calls: it starts one, or none. -/
theorem step_command {n : Nat} {config : AppConfig} {command : BulkCommand}
    (h : (system platform codec).step s (.command n config command) = some t) :
    (∃ request, command.outcome codec s.processes.db = .ok (.enqueue request) ∧
      t = { s with bulks := s.bulks.insert n ⟨config, request, .creating⟩ }) ∨
    ((∀ request, command.outcome codec s.processes.db ≠ .ok (.enqueue request)) ∧ t = s) := by
  simp only [system, step] at h
  split at h
  · next request outcome => exact Or.inl ⟨request, outcome, startBulk_eq h⟩
  · next text outcome =>
    cases h
    exact Or.inr ⟨fun request same => (nomatch outcome.symm.trans same), rfl⟩
  · next error outcome =>
    cases h
    exact Or.inr ⟨fun request same => (nomatch outcome.symm.trans same), rfl⟩

theorem step_abandonBulk {n : Nat}
    (h : (system platform codec).step s (.abandonBulk n) = some t) :
    t = { s with bulks := s.bulks.erase n } := by
  simp only [system, step] at h
  split at h
  · cases h
  · cases h
    rfl

theorem started_after {n n' : Nat} {config : AppConfig} {request : BulkEnqueueRequest} {b' : Bulk}
    (other : ∀ input, a ≠ .bulk n input)
    (h : t = { s with bulks := s.bulks.insert n' ⟨config, request, .creating⟩ })
    (found : t.bulks.lookup n = some b') : BulkAfter platform s t a n b' := by
  rw [h] at found
  by_cases same : n = n'
  · subst same
    rw [AList.lookup_insert] at found
    cases found
    exact .started rfl
  · rw [AList.lookup_insert_ne same] at found
    exact .kept found other

/-- **Where the bulk calls of the new state come from.** -/
theorem bulk_after {n : Nat} {b' : Bulk} (h : (system platform codec).step s a = some t)
    (found : t.bulks.lookup n = some b') : BulkAfter platform s t a n b' := by
  cases a with
  | process action =>
    obtain ⟨-, -, bulks⟩ := step_process h
    exact .kept (bulks ▸ found) (by simp only [ne_eq, reduceCtorEq, not_false_eq_true, implies_true])
  | start n' config request =>
    exact started_after (by simp only [ne_eq, reduceCtorEq, not_false_eq_true, implies_true])
      (startBulk_eq h) found
  | command n' config command =>
    rcases step_command h with ⟨request, -, started⟩ | ⟨-, rfl⟩
    · exact started_after (by simp only [ne_eq, reduceCtorEq, not_false_eq_true, implies_true])
        started found
    · exact .kept found (by simp only [ne_eq, reduceCtorEq, not_false_eq_true, implies_true])
  | bulk n' input =>
    obtain ⟨b, b'', found', fresh, turned, bulks, -, drawn⟩ := step_bulk h
    rw [bulks] at found
    by_cases same : n = n'
    · subst same
      rw [AList.lookup_insert] at found
      cases found
      exact .turned rfl found' fresh turned drawn
    · rw [AList.lookup_insert_ne same] at found
      refine .kept found ?_
      rintro input' ⟨⟩
      exact same rfl
  | abandonBulk n' =>
    rw [step_abandonBulk h] at found
    by_cases same : n = n'
    · subst same
      rw [AList.lookup_erase] at found
      cases found
    · rw [AList.lookup_erase_ne same] at found
      exact .kept found (by simp only [ne_eq, reduceCtorEq, not_false_eq_true, implies_true])

end BulkSends

end WhatsappBot
