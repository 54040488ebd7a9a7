import WhatsappBot.Runtime.Forwarding

/-!
# Forwards and their expiry

What holds in every state of every run: the socket is called for a forward only
with a message that is stored, complete and not expired, and no error that a
worker handles for a forward is one of its destination, so that only the
failures of other jobs change a destination.
-/

namespace WhatsappBot

open Lib.SharedStore Lib.Transition Lib.Relational BaileysTransport

/-- What `encode` writes, `decode` reads. -/
def TransportPlatform.Decodes {Bytes : Type} (platform : TransportPlatform Bytes) : Prop :=
  ∀ message, platform.decode (platform.controller.encode message) = .ok message

/-- A forward gives the socket the message that is stored under its key, complete
and before it expires. -/
def SocketCall.Delivers {Bytes : Type} (platform : TransportPlatform Bytes)
    (sources : ForwardSources Bytes) (call : SocketCall) : Prop :=
  ∃ source message,
    ForwardSourceRepository.get sources (call.job.forwardSourceKey.getD "") = some source ∧
    source.payload = platform.controller.encode message ∧ complete message = true ∧
    call.content = .forward message ∧ call.jid = call.job.destinationJid ∧
    ∀ expiresAt, source.expiresAt = some expiresAt → ∃ date,
      platform.controller.dates.parse expiresAt = some date ∧ call.date.ms < date.ms

namespace Forwarding

variable {Bytes : Type} {platform : ForwardingPlatform Bytes} {s t : Forwarding Bytes}
  {a : ForwardingAction}

/-! ## Where workers and calls come from -/

/-- A call of `send` in the new state was there before, or the turn began it. -/
theorem calls_after {id : WorkerId} {call : SendCall}
    (h : (system platform).step s a = some t) (found : t.calls.lookup id = some call) :
    s.calls.lookup id = some call ∨ ∃ input transport, a = .turn id input transport ∧
      s.called platform id input transport = some call := by
  cases a with
  | turn id' input transport =>
    rw [(step_turn h).2.2.1] at found
    cases called : s.called platform id' input transport with
    | none =>
      rw [called] at found
      exact Or.inl found
    | some call' =>
      rw [called] at found
      by_cases same : id = id'
      · subst same
        cases (AList.lookup_insert s.calls).symm.trans found
        exact Or.inr ⟨input, transport, rfl, called⟩
      · exact Or.inl ((AList.lookup_insert_ne same).symm.trans found)
  | other action =>
    rw [(step_other h).2.2.2.1] at found
    exact Or.inl found
  | save =>
    obtain ⟨_, -, rfl⟩ := step_save h
    exact Or.inl found

theorem calls_kept {id : WorkerId} (h : (system platform).step s a = some t)
    (other : ∀ input transport, a ≠ .turn id input transport) :
    t.calls.lookup id = s.calls.lookup id := by
  cases a with
  | turn id' input transport =>
    rw [(step_turn h).2.2.1]
    cases s.called platform id' input transport with
    | none => rfl
    | some call =>
      refine AList.lookup_insert_ne ?_
      rintro rfl
      exact other input transport rfl
  | other action => rw [(step_other h).2.2.2.1]
  | save =>
    obtain ⟨_, -, rfl⟩ := step_save h
    rfl

/-- Where a worker of the new state comes from. -/
inductive TurnAfter (platform : ForwardingPlatform Bytes) (s t : Forwarding Bytes)
    (a : ForwardingAction) (id : WorkerId) (w' : Worker) : Prop where
  | kept {w : Worker} (found : s.processes.workers.lookup id = some w) (phase : w'.phase = w.phase)
    (transport : w'.transport = w.transport) (calls : t.calls.lookup id = s.calls.lookup id)
  | turned {w : Worker} {input : WorkerInput} {transport : TransportInput}
    (action : a = .turn id input transport) (found : s.processes.workers.lookup id = some w)
    (step : (QueueWorker.client platform.processes.dates).step store w
      (s.input id input transport) s.processes.db = (w', t.processes.db))
  | fresh (idle : w'.phase.working = none)

theorem turn_after {id : WorkerId} {w' : Worker} (h : (system platform).step s a = some t)
    (found : t.processes.workers.lookup id = some w') : TurnAfter platform s t a id w' := by
  cases a with
  | turn id' input transport =>
    obtain ⟨w, w'', before, turned, workers, -⟩ := Processes.step_worker (step_turn h).1
    rw [workers] at found
    by_cases same : id = id'
    · subst same
      cases (AList.lookup_insert s.processes.workers).symm.trans found
      exact .turned rfl before turned
    · refine .kept ((AList.lookup_insert_ne same).symm.trans found) rfl rfl (calls_kept h ?_)
      intro input' transport' heq
      cases heq
      exact same rfl
  | other action =>
    have calls : t.calls.lookup id = s.calls.lookup id := by rw [(step_other h).2.2.2.1]
    obtain ⟨unturned, stepped, -⟩ := step_other h
    cases Processes.worker_after stepped found with
    | kept before => exact .kept before rfl rfl calls
    | turned action =>
      rw [action] at unturned
      cases unturned
    | stopped action before worker =>
      subst worker
      exact .kept before rfl rfl calls
    | daemon action party worker =>
      subst worker
      exact .fresh rfl
    | cli action party dryRun worker =>
      subst worker
      exact .fresh rfl
  | save =>
    obtain ⟨_, -, rfl⟩ := step_save h
    exact .kept found rfl rfl rfl

/-! ## The invariant -/

/-- What is true of every reachable state. -/
structure Sound (platform : ForwardingPlatform Bytes) (s : Forwarding Bytes) : Prop where
  wellHeld : s.processes.WellHeld
  stored : ∀ source ∈ s.sources.rows, Saved platform source
  /-- A worker that awaits the live transport has called it for that job. -/
  awaited : ∀ {id w job}, s.processes.workers.lookup id = some w → w.phase = .sending job →
    w.simulates job = false → ∃ call, s.calls.lookup id = some call ∧ call.job = job
  refused : ∀ {id call error}, s.calls.lookup id = some call → call.job.isForward = true →
    call.start = .error error → error.errorClass ∉ DeliveryErrorClass.denying
  handled : ∀ {id w job error}, s.processes.workers.lookup id = some w →
    w.phase = .handling job error → job.isForward = true →
    error.errorClass ∉ DeliveryErrorClass.denying
  spared : ∀ {id w job error}, s.processes.workers.lookup id = some w →
    w.phase = .forbidding job error → job.isForward = false
  delivers : ∀ call ∈ s.sent, call.job.isForward = true →
    call.Delivers platform.transport s.sources

theorem not_denying {errorClass : DeliveryErrorClass}
    (h : errorClass ≠ .DESTINATION_ERROR ∧ errorClass ≠ .PERMISSION_ERROR) :
    errorClass ∉ DeliveryErrorClass.denying := by
  simp only [DeliveryErrorClass.denying, List.mem_cons, List.not_mem_nil, or_false, not_or]
  exact ⟨h.2, h.1⟩

theorem Start.sound (h : Start platform s) : Sound platform s where
  wellHeld := h.processes.wellHeld
  stored := h.sources
  awaited found := by
    rw [h.processes.1, AList.lookup_empty] at found
    cases found
  refused found := by
    rw [h.calls, AList.lookup_empty] at found
    cases found
  handled found := by
    rw [h.processes.1, AList.lookup_empty] at found
    cases found
  spared found := by
    rw [h.processes.1, AList.lookup_empty] at found
    cases found
  delivers call mem := by
    rw [h.sent] at mem
    cases mem

theorem wellHeld_step (wellHeld : s.processes.WellHeld)
    (step : (system platform).step s a = some t) : t.processes.WellHeld := by
  rcases processes_after step with same | ⟨action, stepped⟩
  · rw [same]
    exact wellHeld
  · exact wellHeld.step stepped

theorem Sound.stored_step (h : Sound platform s) (step : (system platform).step s a = some t) :
    ∀ source ∈ t.sources.rows, Saved platform source := by
  cases a with
  | turn =>
    rw [(step_turn step).2.1]
    exact h.stored
  | other =>
    rw [(step_other step).2.2.1]
    exact h.stored
  | save =>
    obtain ⟨source, saved, rfl⟩ := step_save step
    intro row mem
    rcases Table.mem_of_insertOrIgnore mem with before | rfl
    · exact h.stored row before
    · exact saved

theorem Sound.awaited_step (h : Sound platform s) (step : (system platform).step s a = some t)
    {id : WorkerId} {w' : Worker} {job : QueueJob}
    (found : t.processes.workers.lookup id = some w') (sending : w'.phase = .sending job)
    (live : w'.simulates job = false) :
    ∃ call, t.calls.lookup id = some call ∧ call.job = job := by
  cases turn_after step found with
  | kept before phase transport calls =>
    rw [calls]
    refine h.awaited before (phase ▸ sending) ?_
    rw [← live, Worker.simulates, Worker.simulates, transport]
  | @turned w input transport action before turned =>
    have advance := (QueueWorker.advance turned (by rw [sending]; rfl)).1
    have settings := QueueWorker.settings_of_step turned
    have live' : w.simulates job = false := (settings.simulates job).symm.trans live
    generalize w'.phase = phase at advance sending
    cases advance with
    | handed handing =>
      cases sending
      have processing := (h.wellHeld.held before (by rw [handing]; rfl)).snapshot
      subst action
      rw [(step_turn step).2.2.1, called_of_handing before handing processing live']
      exact ⟨_, AList.lookup_insert _, rfl⟩
    | @decided held error before =>
      have taken := QueueWorker.branches w (s.input id input transport) held error
      rw [sending] at taken
      cases taken
    | claimed | stopped | paced | refused | allowed | unsendable | simulated | accepted | rejected
    | recorded | recordedDryRun | noted | interrupted | forbidden => cases sending
  | fresh idle =>
    rw [sending] at idle
    cases idle

theorem Sound.refused_step (h : Sound platform s) (step : (system platform).step s a = some t)
    {id : WorkerId} {call : SendCall} {error : DeliveryError}
    (found : t.calls.lookup id = some call) (forward : call.job.isForward = true)
    (start : call.start = .error error) : error.errorClass ∉ DeliveryErrorClass.denying := by
  rcases calls_after step found with before | ⟨input, transport, -, called⟩
  · exact h.refused before forward start
  · obtain ⟨_, -, -, -, begun⟩ := called_eq called
    exact not_denying (callSocket_error forward (begun.symm.trans start))

/-- What a failed send of a forward comes to. -/
theorem Sound.outcome (h : Sound platform s) {id : WorkerId} {w : Worker} {job : QueueJob}
    {input : WorkerInput} {transport : TransportInput} {failure : TransportFailure}
    (found : s.processes.workers.lookup id = some w) (sending : w.phase = .sending job)
    (live : w.simulates job = false) (forward : job.isForward = true)
    (outcome : (s.input id input transport).outcome = .error failure) :
    failure.deliveryError.errorClass ∉ DeliveryErrorClass.denying := by
  obtain ⟨call, called, rfl⟩ := h.awaited found sending live
  have settled : call.outcome transport.answer = .error failure := by
    rw [← outcome, Forwarding.input, called]
  unfold SendCall.outcome at settled
  split at settled
  · next error start =>
    cases settled
    have refused := h.refused called forward start
    exact refused
  · split at settled
    · next error settles =>
      cases settled
      obtain ⟨thrown, rfl⟩ := settle_error settles
      have caught := not_denying (caught_forward forward thrown)
      exact caught
    · cases settled

theorem Sound.handled_step (h : Sound platform s) (step : (system platform).step s a = some t)
    {id : WorkerId} {w' : Worker} {job : QueueJob} {error : DeliveryError}
    (found : t.processes.workers.lookup id = some w') (handling : w'.phase = .handling job error)
    (forward : job.isForward = true) : error.errorClass ∉ DeliveryErrorClass.denying := by
  cases turn_after step found with
  | kept before phase => exact h.handled before (phase ▸ handling) forward
  | @turned w input transport action before turned =>
    have advance := (QueueWorker.advance turned (by rw [handling]; rfl)).1
    generalize w'.phase = phase at advance handling
    cases advance with
    | unsendable handing status =>
      exact absurd (h.wellHeld.held before (by rw [handing]; rfl)).snapshot status
    | rejected sending live outcome =>
      cases handling
      exact h.outcome before sending live forward outcome
    | interrupted error' =>
      cases handling
      exact (by decide : DeliveryErrorClass.UNKNOWN_TRANSIENT ∉ DeliveryErrorClass.denying)
    | @decided held error' before =>
      have taken := QueueWorker.branches w (s.input id input transport) held error'
      rw [handling] at taken
      cases taken
    | claimed | stopped | paced | refused | allowed | handed | simulated | accepted | recorded
    | recordedDryRun | noted | forbidden => cases handling
  | fresh idle =>
    rw [handling] at idle
    cases idle

theorem Sound.spared_step (h : Sound platform s) (step : (system platform).step s a = some t)
    {id : WorkerId} {w' : Worker} {job : QueueJob} {error : DeliveryError}
    (found : t.processes.workers.lookup id = some w')
    (forbidding : w'.phase = .forbidding job error) : job.isForward = false := by
  cases turn_after step found with
  | kept before phase => exact h.spared before (phase ▸ forbidding)
  | @turned w input transport action before turned =>
    have advance := (QueueWorker.advance turned (by rw [forbidding]; rfl)).1
    generalize w'.phase = phase at advance forbidding
    cases advance with
    | @decided held error' handling =>
      have denying := QueueWorker.branch_denies forbidding
      have taken := QueueWorker.branches w (s.input id input transport) held error'
      rw [forbidding] at taken
      cases taken
      by_contra forward
      exact h.handled before handling ((Bool.not_eq_false _).mp forward) denying
    | claimed | stopped | paced | refused | allowed | handed | unsendable | simulated | accepted
    | rejected | recorded | recordedDryRun | noted | interrupted | forbidden => cases forbidding
  | fresh idle =>
    rw [forbidding] at idle
    cases idle

/-- A source that was saved and is not expired has an instant of expiry to come. -/
theorem Saved.expiresAt {source : ForwardSource Bytes} {now : Date} {expiresAt : Timestamp}
    (readsIso : platform.transport.controller.dates.ReadsIso) (saved : Saved platform source)
    (fresh : source.expired platform.transport.controller.dates now = false)
    (expires : source.expiresAt = some expiresAt) :
    ∃ date, platform.transport.controller.dates.parse expiresAt = some date ∧
      now.ms < date.ms := by
  obtain ⟨message, contentType, received, made⟩ := saved
  unfold SelfChatController.sourceOf at made
  dsimp only at made
  split at made
  · cases made
    cases expires
  · split at made
    · cases made
    · next date instant =>
      cases made
      cases expires
      refine ⟨date, readsIso date, ?_⟩
      simp only [ForwardSource.expired, readsIso date, Option.any_some] at fresh
      simpa only [Bool.and_eq_false_imp, ne_eq, decide_eq_false_iff_not, not_le,
        date.toISOString_ne_empty, not_false_eq_true, decide_true, forall_const] using fresh

theorem Saved.payload {source : ForwardSource Bytes} (saved : Saved platform source) :
    ∃ message, source.payload = platform.transport.controller.encode message := by
  obtain ⟨message, contentType, received, made⟩ := saved
  unfold SelfChatController.sourceOf at made
  dsimp only at made
  split at made
  · cases made
    exact ⟨message, rfl⟩
  · split at made
    · cases made
    · cases made
      exact ⟨message, rfl⟩

theorem Sound.delivers_step (h : Sound platform s) (decodes : platform.transport.Decodes)
    (readsIso : platform.transport.controller.dates.ReadsIso)
    (step : (system platform).step s a = some t) :
    ∀ call ∈ t.sent, call.job.isForward = true → call.Delivers platform.transport t.sources := by
  cases a with
  | turn id input transport =>
    obtain ⟨-, sources, -, sent⟩ := step_turn step
    rw [sources, sent]
    cases called : s.called platform id input transport with
    | none => exact h.delivers
    | some sendCall =>
      intro call mem forward
      rcases List.mem_append.mp mem with before | new
      · exact h.delivers call before forward
      · obtain ⟨_, -, -, -, begun⟩ := called_eq called
        unfold SendCall.socketCalls at new
        cases start : sendCall.start with
        | error error =>
          rw [start] at new
          cases new
        | ok content =>
          rw [start] at new
          cases List.mem_singleton.mp new
          obtain ⟨source, message, found, fresh, decoded, whole, rfl⟩ :=
            callSocket_forward forward (begun.symm.trans start)
          have stored : ForwardSourceRepository.get s.sources
              (sendCall.job.forwardSourceKey.getD "") = some source := by
            unfold read at found
            split at found
            · cases found
            · exact Except.ok.inj found
          have saved := h.stored source (mem_of_findBy stored).1
          obtain ⟨encoded, payload⟩ := saved.payload
          have same := decodes encoded
          rw [← payload, decoded] at same
          cases same
          exact ⟨source, message, stored, payload, whole, rfl, rfl,
            fun _ expires => saved.expiresAt readsIso fresh expires⟩
  | other =>
    obtain ⟨-, -, sources, -, sent⟩ := step_other step
    rw [sources, sent]
    exact h.delivers
  | save =>
    obtain ⟨row, -, rfl⟩ := step_save step
    intro call mem forward
    obtain ⟨source, message, stored, delivered⟩ := h.delivers call mem forward
    exact ⟨source, message, ForwardSourceRepository.get_save stored, delivered⟩

theorem Sound.step (h : Sound platform s) (decodes : platform.transport.Decodes)
    (readsIso : platform.transport.controller.dates.ReadsIso)
    (step : (system platform).step s a = some t) : Sound platform t where
  wellHeld := wellHeld_step h.wellHeld step
  stored := h.stored_step step
  awaited := h.awaited_step step
  refused := h.refused_step step
  handled := h.handled_step step
  spared := h.spared_step step
  delivers := h.delivers_step decodes readsIso step

theorem Sound.of_run {as : List ForwardingAction} (decodes : platform.transport.Decodes)
    (readsIso : platform.transport.controller.dates.ReadsIso) (start : Start platform s)
    (run : (system platform).Run s as t) : Sound platform t :=
  run.invariant (I := Sound platform) (fun h _ step => h.step decodes readsIso step) start.sound

end Forwarding

/-! ## Destinations -/

/-- **A worker changes a destination in one phase only.** -/
theorem QueueWorker.destinations_of_turn {w : Worker} {i : WorkerInput} {op : Op}
    {db db' : Database} {reply : Reply} (call : turn w i = .call op)
    (ran : op.run db = .ok (reply, db')) (other : ∀ job error, w.phase ≠ .forbidding job error) :
    db'.destinations = db.destinations := by
  unfold turn at call
  cases phase : w.phase with
  | starting | readingReason | readingUntil | droppingUntil | droppingReason | resolving | noting
  | pausing | pausingReason | unlinking | unlinkingReason | auditing | ending =>
    simp only [phase, Turn.call.injEq] at call
    subst call
    cases ran
    rfl
  | connecting held result =>
    simp only [phase] at call
    split at call
    · cases call
      cases ran
      rfl
    · cases call
  | promoting =>
    simp only [phase, Turn.call.injEq] at call
    subst call
    obtain ⟨_, _, promoted, heq⟩ := Op.map_ok ran
    cases heq
    exact (JobRepository.promoteDueScheduled_ok promoted).destinations
  | cancelling =>
    simp only [phase, Turn.call.injEq] at call
    subst call
    obtain ⟨_, _, cancelled, heq⟩ := Op.map_ok ran
    cases heq
    exact (JobRepository.cancelDisabled_ok cancelled).destinations
  | claiming =>
    simp only [phase, Turn.call.injEq] at call
    subst call
    obtain ⟨_, _, claimed, heq⟩ := Op.map_ok ran
    cases heq
    rcases JobRepository.claim_ok claimed with ⟨-, -, same⟩ | ⟨_, -, updated, -⟩
    · rw [same]
    · exact updated.destinations
  | releasing | refusing | settling | retrying | limiting | suspending | failing =>
    simp only [phase, Turn.call.injEq] at call
    subst call
    obtain ⟨_, _, moved, heq⟩ := Op.map_ok ran
    cases heq
    obtain ⟨_, -, -, updated, -⟩ := JobRepository.transition_ok moved
    exact updated.destinations
  | forbidding held error => exact absurd phase (other held error)
  | ready | pacing | handing | sending | handling | returned | thrown | ended =>
    simp only [phase, reduceCtorEq] at call

namespace Forwarding

/-- **Only another job's failure changes a destination.** -/
theorem Sound.destinations (h : Sound platform s) {id : WorkerId} {input : WorkerInput}
    {transport : TransportInput}
    (step : (system platform).step s (.turn id input transport) = some t)
    (changed : t.processes.db.destinations ≠ s.processes.db.destinations) :
    ∃ w job error, s.processes.workers.lookup id = some w ∧ w.phase = .forbidding job error ∧
      job.isForward = false := by
  obtain ⟨w, w', found, turned, -⟩ := Processes.step_worker (step_turn step).1
  have forbidding : ∃ job error, w.phase = .forbidding job error := by
    by_contra none
    push Not at none
    refine changed ?_
    rcases Client.step_cases turned with ⟨-, same⟩ | ⟨_, _, -, -, -, same⟩ |
      ⟨op, reply, call, -, ran, -⟩
    · rw [same]
    · rw [same]
    · exact QueueWorker.destinations_of_turn call ran none
  obtain ⟨job, error, forbidding⟩ := forbidding
  exact ⟨w, job, error, found, forbidding, h.spared found forbidding⟩

end Forwarding

end WhatsappBot
