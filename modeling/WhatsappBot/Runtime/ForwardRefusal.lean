import WhatsappBot.Runtime.Delivery
import WhatsappBot.Runtime.ForwardExpiry

/-!
# Forwards that are refused

A forward whose source cannot be used is refused before the socket is called,
and three turns later its pass is over and the job is `FAILED`. Every other
party leaves the job alone meanwhile, operators apart.
-/

namespace WhatsappBot

open Lib.SharedStore Lib.Transition Lib.Relational BaileysTransport JobRepository

/-- Whether an action is a turn of this worker. -/
def ForwardingAction.turnOf (id : WorkerId) : ForwardingAction → Bool
  | turn id' _ _ => id' = id
  | _ => false

/-- Whether an action is the end of this worker's process. -/
def Action.ends (id : WorkerId) : Action → Bool
  | crash id' => id' = id
  | _ => false

namespace QueueWorker

theorem branch_sourceFailures (w : Worker) (i : WorkerInput) (job : QueueJob)
    {error : DeliveryError} (failure : error.errorClass ∈ sourceFailures) :
    branch w i job error = .failing job error := by
  have permanent : ∀ errorClass ∈ sourceFailures, errorClass ∉ retryableClasses ∧
      ¬Unauthorized errorClass ∧ errorClass ∉ DeliveryErrorClass.denying := by decide
  obtain ⟨permanent, authorized, spared⟩ := permanent error.errorClass failure
  have fails : (decision w i job error).action = .fail := by
    unfold decision
    have decides := decideRetry_decides error.errorClass job.attemptCount job.maxAttempts
      w.config.retryBaseMs w.config.retryMaxMs error.retryAfterMs i.random
    generalize decideRetry error.errorClass job.attemptCount job.maxAttempts
      w.config.retryBaseMs w.config.retryMaxMs error.retryAfterMs i.random = decision at decides ⊢
    cases decides with
    | pauseAuth unauthorized => exact absurd unauthorized authorized
    | fail => rfl
    | rateLimit limited => exact absurd (limited ▸ List.mem_cons_self) permanent
    | retry transient => exact absurd (List.mem_cons_of_mem _ transient) permanent
  unfold branch
  rw [fails]
  refine if_neg ?_
  rintro (denied | denied) <;> rw [denied] at spared <;> exact spared (by decide)

end QueueWorker

namespace Forwarding

variable {Bytes : Type} {platform : ForwardingPlatform Bytes} {s t : Forwarding Bytes}
  {a : ForwardingAction} {id : WorkerId} {job row : QueueJob} {sent : List SocketCall}
  {phase : Phase} {error : DeliveryError}

/-- The worker's process goes on, the database serves it, and no operator
resolves the job. -/
def Undisturbed (id : WorkerId) (jobId : Nat) (s : Forwarding Bytes) : ForwardingAction → Prop
  | .turn id' input _ => id' = id → input.fails = false
  | .other action => action.ends id = false ∧ action.resolves s.processes jobId = false
  | .save _ _ _ => True

instance (id : WorkerId) (jobId : Nat) (s : Forwarding Bytes) (a : ForwardingAction) :
    Decidable (Undisturbed id jobId s a) :=
  match a with
  | .turn _ _ _ => inferInstanceAs (Decidable (_ → _))
  | .other _ => inferInstanceAs (Decidable (_ ∧ _))
  | .save _ _ _ => isTrue trivial

/-- The daemon's worker stands in a phase with a live job. -/
structure Stands (s : Forwarding Bytes) (id : WorkerId) (job row : QueueJob)
    (sent : List SocketCall) (phase : Phase) : Prop where
  party : id = .daemon
  worker : ∃ w, s.processes.workers.lookup id = some w ∧ w.phase = phase ∧ w.simulates job = false
  found : s.processes.db.job? job.id = some row
  live : row.dryRun = false
  sent : s.sent = sent

/-- Another party's action leaves the worker where it stands. -/
theorem Stands.worker_kept (h : s.Stands id job row sent phase)
    (guard : Undisturbed id job.id s a) (step : (system platform).step s a = some t)
    (other : a.turnOf id = false) :
    ∃ w, t.processes.workers.lookup id = some w ∧ w.phase = phase ∧ w.simulates job = false := by
  obtain ⟨w, worker, phase, live⟩ := h.worker
  cases a with
  | turn id' input transport =>
    have apart : id ≠ id' := by
      rintro rfl
      simp only [ForwardingAction.turnOf, decide_true, reduceCtorEq] at other
    obtain ⟨_, _, -, -, workers, -⟩ := Processes.step_worker (step_turn step).1
    rw [workers, AList.lookup_insert_ne apart]
    exact ⟨w, worker, phase, live⟩
  | other action =>
    obtain ⟨unturned, stepped, -⟩ := step_other step
    have alive : action ≠ .crash id := by
      rintro rfl
      have ends := guard.1
      simp only [Action.ends, decide_true, reduceCtorEq] at ends
    have another : ∀ input, action ≠ .worker id input := by
      rintro input rfl
      cases unturned
    obtain ⟨stopping, stays⟩ := Processes.worker_stays stepped worker another alive
    exact ⟨_, stays, phase, live⟩
  | save =>
    obtain ⟨_, -, rfl⟩ := step_save step
    exact ⟨w, worker, phase, live⟩

/-- Nobody else moves the row of the live job that the daemon has in hand. -/
theorem Stands.row_unmoved (h : s.Stands id job row sent phase) (wellHeld : s.processes.WellHeld)
    (queued : row.status ∉ JobStatus.unsent) {action : Action}
    (step : (Processes.system platform.processes).step s.processes action = some t.processes)
    (another : ∀ input, action ≠ .worker id input)
    (unresolved : action.resolves s.processes job.id = false) :
    t.processes.db.job? job.id = some row := by
  rcases Processes.mover wellHeld step h.found with same | ⟨moved, -, -, -, mover⟩
  · exact same
  · exfalso
    have same := (Database.mem_of_job? h.found).2
    cases mover with
    | queue unsent => exact queued unsent
    | recovery recovers =>
      -- the daemon is running, so none starts
      cases action with
      | startDaemon config now =>
        have free := (Processes.step_startDaemon step).1
        obtain ⟨w, worker, -⟩ := h.worker
        rw [← h.party, worker] at free
        cases free
      | _ => cases recovers
    | @pass id' input w' job' options now action found' working turn fails outcome same' =>
      obtain ⟨row', hrow', identity, -⟩ := (wellHeld.held found' working).row
      rw [← same', same, h.found] at hrow'
      cases hrow'
      obtain ⟨rfl, -⟩ := wellHeld.live found' working (identity.dryRun.trans h.live)
      exact another input (h.party ▸ action)
    | operator resolves =>
      rw [same, unresolved] at resolves
      cases resolves

theorem Stands.row_kept (h : s.Stands id job row sent phase) (wellHeld : s.processes.WellHeld)
    (queued : row.status ∉ JobStatus.unsent) (guard : Undisturbed id job.id s a)
    (step : (system platform).step s a = some t) (other : a.turnOf id = false) :
    t.processes.db.job? job.id = some row := by
  cases a with
  | turn id' input transport =>
    refine h.row_unmoved wellHeld queued (step_turn step).1 ?_ rfl
    intro input' heq
    cases heq
    simp only [ForwardingAction.turnOf, decide_true, reduceCtorEq] at other
  | other action =>
    obtain ⟨unturned, stepped, -⟩ := step_other step
    refine h.row_unmoved wellHeld queued stepped ?_ guard.2
    rintro input rfl
    cases unturned
  | save =>
    obtain ⟨_, -, rfl⟩ := step_save step
    exact h.found

/-- Only the daemon calls the live transport. -/
theorem Stands.sent_kept (h : s.Stands id job row sent phase) (wellHeld : s.processes.WellHeld)
    (step : (system platform).step s a = some t) (other : a.turnOf id = false) :
    t.sent = sent := by
  cases a with
  | turn id' input transport =>
    rw [(step_turn step).2.2.2]
    cases called : s.called platform id' input transport with
    | none => exact h.sent
    | some call =>
      obtain ⟨w', found', handing, unsimulated, -⟩ := called_eq called
      have calledLive : call.job.dryRun = false := by
        rw [Worker.simulates, Bool.or_eq_false_iff] at unsimulated
        exact unsimulated.2
      obtain ⟨rfl, -⟩ := wellHeld.live found' (by rw [handing]; rfl) calledLive
      rw [h.party] at other
      cases other
  | other action => rw [(step_other step).2.2.2.2, h.sent]
  | save =>
    obtain ⟨_, -, rfl⟩ := step_save step
    exact h.sent

/-- **What no other party disturbs.** -/
theorem Stands.kept (h : s.Stands id job row sent phase) (wellHeld : s.processes.WellHeld)
    (queued : row.status ∉ JobStatus.unsent) (guard : Undisturbed id job.id s a)
    (step : (system platform).step s a = some t) (other : a.turnOf id = false) :
    t.Stands id job row sent phase ∧ t.calls.lookup id = s.calls.lookup id := by
  have calls : t.calls.lookup id = s.calls.lookup id := by
    refine calls_kept step ?_
    rintro input transport rfl
    simp only [ForwardingAction.turnOf, decide_true, reduceCtorEq] at other
  refine ⟨⟨h.party, ?_, ?_, h.live, ?_⟩, calls⟩
  · exact h.worker_kept guard step other
  · exact h.row_kept wellHeld queued guard step other
  · exact h.sent_kept wellHeld step other

/-- Where a pass stands whose send was refused, by the turns it has made since. -/
inductive RefusedAt (id : WorkerId) (job : QueueJob) (error : DeliveryError)
    (sent : List SocketCall) : Nat → Forwarding Bytes → Prop where
  | sending {s : Forwarding Bytes} {row : QueueJob} {call : SendCall}
    (stands : s.Stands id job row sent (.sending job)) (processing : row.status = .PROCESSING)
    (called : s.calls.lookup id = some call) (start : call.start = .error error) :
    RefusedAt id job error sent 0 s
  | handling {s : Forwarding Bytes} {row : QueueJob}
    (stands : s.Stands id job row sent (.handling job error.failure.deliveryError))
    (processing : row.status = .PROCESSING) : RefusedAt id job error sent 1 s
  | failing {s : Forwarding Bytes} {row : QueueJob}
    (stands : s.Stands id job row sent (.failing job error.failure.deliveryError))
    (processing : row.status = .PROCESSING) : RefusedAt id job error sent 2 s
  | failed {s : Forwarding Bytes} {row : QueueJob}
    (stands : s.Stands id job row sent (.returned true)) (failed : row.status = .FAILED)
    (errorClass : row.lastErrorClass = some error.errorClass.text) :
    RefusedAt id job error sent 3 s

theorem RefusedAt.kept {n : Nat} (h : RefusedAt id job error sent n s)
    (wellHeld : s.processes.WellHeld) (guard : Undisturbed id job.id s a)
    (step : (system platform).step s a = some t) (other : a.turnOf id = false) :
    RefusedAt id job error sent n t := by
  have processed : ∀ {r : QueueJob}, r.status = .PROCESSING → r.status ∉ JobStatus.unsent := by
    intro r status
    rw [status]
    decide
  cases h with
  | sending stands processing called start =>
    obtain ⟨stands, calls⟩ := stands.kept wellHeld (processed processing) guard step other
    exact .sending stands processing (calls.trans called) start
  | handling stands processing =>
    exact .handling (stands.kept wellHeld (processed processing) guard step other).1 processing
  | failing stands processing =>
    exact .failing (stands.kept wellHeld (processed processing) guard step other).1 processing
  | @failed _ r stands failed errorClass =>
    have settled : r.status ∉ JobStatus.unsent := by
      rw [failed]
      decide
    exact .failed (stands.kept wellHeld settled guard step other).1 failed errorClass

/-- A turn of a worker that hands nothing over. -/
theorem Stands.turned {input : WorkerInput} {transport : TransportInput}
    (h : s.Stands id job row sent phase) (handsNothing : ∀ held, phase ≠ .handing held)
    (step : (system platform).step s (.turn id input transport) = some t) :
    ∃ w w', s.processes.workers.lookup id = some w ∧ w.phase = phase ∧
      w.simulates job = false ∧ t.processes.workers.lookup id = some w' ∧ t.sent = sent ∧
      QueueWorker.SameSettings w w' ∧
      (QueueWorker.client platform.processes.dates).step store w (s.input id input transport)
        s.processes.db = (w', t.processes.db) := by
  obtain ⟨w, worker, current, live⟩ := h.worker
  obtain ⟨v, w', found, turned, workers, -⟩ := Processes.step_worker (step_turn step).1
  cases worker.symm.trans found
  refine ⟨w, w', worker, current, live, ?_, ?_, QueueWorker.settings_of_step turned, turned⟩
  · rw [workers, AList.lookup_insert]
  · rw [(step_turn step).2.2.2, called_none worker fun held => current ▸ handsNothing held]
    exact h.sent

/-- A turn that moves on without the database. -/
theorem Stands.move {input : WorkerInput} {transport : TransportInput} {next : Phase}
    (h : s.Stands id job row sent phase) (handsNothing : ∀ held, phase ≠ .handing held)
    (step : (system platform).step s (.turn id input transport) = some t)
    (move : ∀ w : Worker, s.processes.workers.lookup id = some w → w.phase = phase →
      w.simulates job = false →
      QueueWorker.turn w (s.input id input transport) = .move (w.goto next)) :
    t.Stands id job row sent next := by
  obtain ⟨w, w', worker, current, live, worker', same, -, turned⟩ := h.turned handsNothing step
  have moves := move w worker current live
  obtain ⟨rfl, db⟩ := Prod.mk.inj ((QueueWorker.moved moves).symm.trans turned)
  exact ⟨h.party, ⟨_, worker', rfl, live⟩, db ▸ h.found, h.live, same⟩

theorem RefusedAt.turned {n : Nat} {input : WorkerInput} {transport : TransportInput}
    (h : RefusedAt id job error sent n s) (failure : error.errorClass ∈ sourceFailures)
    (wellHeld : s.processes.WellHeld) (granted : input.fails = false)
    (step : (system platform).step s (.turn id input transport) = some t) (unfinished : n < 3) :
    RefusedAt id job error sent (n + 1) t := by
  cases h with
  | sending stands processing called start =>
    refine .handling (stands.move (fun _ => by simp only [ne_eq, reduceCtorEq, not_false_eq_true])
      step fun w worker current live => ?_) processing
    have outcome : (s.input id input transport).outcome = .error error.failure := by
      simp only [Forwarding.input, called, SendCall.outcome, start]
    simp only [QueueWorker.turn, current, live, outcome, Bool.false_eq_true, if_false]
  | handling stands processing =>
    refine .failing (stands.move (fun _ => by simp only [ne_eq, reduceCtorEq, not_false_eq_true])
      step fun w worker current live => ?_) processing
    have branch : QueueWorker.branch w (s.input id input transport) job
        error.failure.deliveryError = .failing job error.failure.deliveryError :=
      QueueWorker.branch_sourceFailures w _ job failure
    simp only [QueueWorker.turn, current, branch]
  | @failing _ r stands processing =>
    obtain ⟨w, w', worker, current, live, worker', same, settings, turned⟩ := stands.turned
      (fun _ => by simp only [ne_eq, reduceCtorEq, not_false_eq_true]) step
    have held := wellHeld.held worker (by rw [current]; rfl : w.phase.working = some job)
    obtain ⟨row', found, identity, -⟩ := held.row
    cases stands.found.symm.trans found
    have transits := QueueWorker.Transits.failing (i := s.input id input transport) current
    have legal := (transits.settles input.wall.toISOString).1
    obtain ⟨settled, after, ran⟩ := transition_active
      (QueueWorker.failureOptions error.errorClass error.message) input.wall.toISOString
      (Database.getByReference_uuid (Database.mem_of_job? stands.found).1)
      (processing ▸ legal) (processing ▸ by decide)
    rw [← identity.uuid] at ran
    have committed : (Op.transition job.uuid.text .FAILED
        (QueueWorker.failureOptions error.errorClass error.message) input.wall.toISOString).run
        s.processes.db = .ok ({ job := some settled }, after) := by
      simp only [Op.run, ran, Except.map]
    obtain ⟨rfl, rfl⟩ := Prod.mk.inj
      ((QueueWorker.called transits.call granted committed).symm.trans turned)
    have written := (Op.run_effect committed).job? stands.found
    rw [Op.onRow, held.selects, decide_eq_true identity.id.symm, if_pos rfl] at written
    refine .failed ⟨stands.party, ⟨_, worker', ?_, ?_⟩, written, stands.live, same⟩ rfl rfl
    · simp only [QueueWorker.answered, current, Worker.goto_phase]
    · exact (settings.simulates job).trans live
  | failed => cases (Nat.lt_irrefl 3 unfinished)

theorem RefusedAt.run {n : Nat} {as : List ForwardingAction} (h : RefusedAt id job error sent n s)
    (failure : error.errorClass ∈ sourceFailures) (wellHeld : s.processes.WellHeld)
    (run : (system platform).RunWhere (Undisturbed id job.id) s as t)
    (turns : n + as.countP (ForwardingAction.turnOf id) ≤ 3) :
    RefusedAt id job error sent (n + as.countP (ForwardingAction.turnOf id)) t := by
  induction run generalizing n with
  | nil => exact h
  | @cons s t u a as guard step rest ih =>
    have wellHeld' := wellHeld_step wellHeld step
    cases own : a.turnOf id with
    | false =>
      rw [List.countP_cons_of_neg (by rw [own]; exact Bool.false_ne_true)] at turns ⊢
      exact ih (h.kept wellHeld guard step own) wellHeld' turns
    | true =>
      rw [List.countP_cons_of_pos own] at turns ⊢
      cases a with
      | turn id' input transport =>
        have same : id' = id := of_decide_eq_true own
        subst same
        have next := h.turned failure wellHeld (guard rfl) step (by omega)
        have last := ih next wellHeld' (by omega)
        rwa [Nat.add_right_comm, Nat.add_assoc] at last
      | other | save => cases own

/-- The hand-over of a forward whose source cannot be used. -/
structure Refuses (platform : ForwardingPlatform Bytes) (s : Forwarding Bytes) (id : WorkerId)
    (input : WorkerInput) (transport : TransportInput) (w : Worker) (job : QueueJob) :
    Prop where
  hands : s.processes.handsOver (.worker id input) = some (w, job)
  forward : job.isForward = true
  processing : ∃ row, s.processes.db.job? job.id = some row ∧ row.status = .PROCESSING
  socket : transport.socket = true
  readable : transport.interruption = none
  unusable : Unusable platform.transport input.wall
    (ForwardSourceRepository.get s.sources (job.forwardSourceKey.getD ""))

theorem Refuses.refusedAt {input : WorkerInput} {transport : TransportInput} {w : Worker}
    (h : Refuses platform s id input transport w job) (live : w.simulates job = false)
    (wellHeld : s.processes.WellHeld)
    (step : (system platform).step s (.turn id input transport) = some t) :
    ∃ error : DeliveryError, error.errorClass ∈ sourceFailures ∧
      RefusedAt id job error s.sent 0 t := by
  obtain ⟨_, _, action, worker, handing, status⟩ := Processes.handsOver_eq h.hands
  cases action
  obtain ⟨row, found, processing⟩ := h.processing
  have working : w.phase.working = some job := by
    rw [handing]
    rfl
  have jobLive : job.dryRun = false := by
    rw [Worker.simulates, Bool.or_eq_false_iff] at live
    exact live.2
  obtain ⟨row', found', identity, -⟩ := (wellHeld.held worker working).row
  cases found.symm.trans found'
  obtain ⟨party, -⟩ := wellHeld.live worker working jobLive
  have readSource : s.read transport (job.forwardSourceKey.getD "") =
      .ok (ForwardSourceRepository.get s.sources (job.forwardSourceKey.getD "")) := by
    simp only [read, h.readable]
  obtain ⟨error, refused, failure⟩ := callSocket_unusable h.forward readSource h.unusable
  rw [← h.socket] at refused
  have called : s.called platform id input transport =
      some { job := job, start := .error error } := by
    rw [called_of_handing worker handing status live, refused]
  obtain ⟨stepped, -, calls, sent⟩ := step_turn step
  obtain ⟨v, w', worker', turned, workers, -⟩ := Processes.step_worker stepped
  cases worker.symm.trans worker'
  have move : QueueWorker.turn w (s.input id input transport) = .move (w.goto (.sending job)) := by
    simp only [QueueWorker.turn, handing, status, if_true]
  obtain ⟨rfl, db⟩ := Prod.mk.inj ((QueueWorker.moved move).symm.trans turned)
  rw [called] at calls sent
  have noted : t.calls.lookup id = some { job := job, start := .error error } := by
    rw [calls]
    exact AList.lookup_insert _
  refine ⟨error, failure, .sending ⟨party, ⟨w.goto (.sending job), ?_, rfl, live⟩, db ▸ found,
    ?_, ?_⟩ processing noted rfl⟩
  · rw [workers, AList.lookup_insert]
  · rw [← identity.dryRun, jobLive]
  · rw [sent]
    exact List.append_nil _

/-- A forward that is refused on the way from `s` fails in its pass, which has three
more turns, and the socket is not called. -/
def FailsUnusable (platform : ForwardingPlatform Bytes) (covered : Worker → QueueJob → Prop)
    (guard : WorkerId → Nat → Forwarding Bytes → ForwardingAction → Prop)
    (s : Forwarding Bytes) : Prop :=
  ∀ {t u : Forwarding Bytes} {as : List ForwardingAction} {id : WorkerId} {input : WorkerInput}
    {transport : TransportInput} {w : Worker} {job : QueueJob},
    Refuses platform s id input transport w job → covered w job →
    (system platform).step s (.turn id input transport) = some t →
    (system platform).RunWhere (guard id job.id) t as u →
    as.countP (ForwardingAction.turnOf id) = 3 →
    (∃ w', u.processes.workers.lookup id = some w' ∧ w'.phase = .returned true) ∧
      (∃ row, u.processes.db.job? job.id = some row ∧ row.status = .FAILED ∧
        row.lastErrorClass ∈ sourceFailures.map (some ·.text)) ∧
      u.sent = s.sent

theorem Sound.failsUnusable (h : Sound platform s) :
    FailsUnusable platform (fun w job => w.simulates job = false) Undisturbed s := by
  intro t u as id input transport w job refuses live step run turns
  obtain ⟨error, failure, refused⟩ := refuses.refusedAt live h.wellHeld step
  have last := refused.run failure (wellHeld_step h.wellHeld step) run (by omega)
  rw [turns] at last
  cases last with
  | failed stands failed errorClass =>
    obtain ⟨w', worker, phase, -⟩ := stands.worker
    exact ⟨⟨w', worker, phase⟩,
      ⟨_, stands.found, failed, errorClass ▸ List.mem_map_of_mem failure⟩, stands.sent⟩

/-- **Forwards respect expiry and spare their groups.** -/
theorem forwards_respect_expiry (platform : ForwardingPlatform Bytes)
    (decodes : platform.transport.Decodes)
    (readsIso : platform.transport.controller.dates.ReadsIso) {s₀ s : Forwarding Bytes}
    {as : List ForwardingAction} (start : Start platform s₀) (run : (system platform).Run s₀ as s) :
    (∀ call ∈ s.sent, call.job.isForward = true → call.Delivers platform.transport s.sources) ∧
    FailsUnusable platform (fun w job => w.simulates job = false) Undisturbed s ∧
    ∀ {t : Forwarding Bytes} {id : WorkerId} {input : WorkerInput} {transport : TransportInput},
      (system platform).step s (.turn id input transport) = some t →
      t.processes.db.destinations ≠ s.processes.db.destinations →
      ∃ w job error, s.processes.workers.lookup id = some w ∧
        w.phase = .forbidding job error ∧ job.isForward = false := by
  have sound := Sound.of_run decodes readsIso start run
  exact ⟨sound.delivers, sound.failsUnusable, sound.destinations⟩

end Forwarding

/-! ## A small installation -/

namespace Forwarding

def sendingPlatform : ForwardingPlatform WAMessage where
  processes := Example.platform
  transport :=
    { controller :=
        { jids :=
            { jidDecode := fun _ => none
              jidEncode := fun user server => user ++ "@" ++ server
              toLowerCase := id }
          dates := isoParser
          sha256 := fun _ => Example.digest
          encode := id }
      decode := .ok }

/-- A photo that was forwarded to the account itself. -/
def photo : WAMessage where
  key := { remoteJid := some "98912@s.whatsapp.net", fromMe := some true, id := some "3EB0" }
  message := some { imageMessage := some {} }

/-- The job that forwards the photo to the group. -/
def photoJob (dryRun : Bool) : QueueJob :=
  { Example.job .PENDING dryRun with
    forwardSourceKey := some (forwardSourceKey "98912@s.whatsapp.net" "3EB0") }

def awaitingPhoto (dryRun : Bool) : Forwarding WAMessage where
  processes := Example.installation (photoJob dryRun)
  sources := default
  calls := ∅
  sent := []

theorem awaitingPhoto_start (dryRun : Bool) : Start sendingPlatform (awaitingPhoto dryRun) where
  processes := Example.installation_start _
  sources _ mem := absurd mem List.not_mem_nil
  calls := rfl
  sent := rfl

/-- An uneventful turn of the daemon's worker. -/
def turnAt (ms : Fin 1000000) : ForwardingAction :=
  .turn .daemon { clock := Example.clock ms, wall := Example.clock ms } {}

/-- A live daemon starts, and its worker comes to hand the job over. -/
def handingPhoto : List ForwardingAction :=
  .other (.startDaemon (AppConfig.default false) (Example.clock 0)) ::
    List.replicate 9 (turnAt 1)

theorem forwards_respect_expiry_photo :
    ∃ s as call, (system sendingPlatform).Run (awaitingPhoto false) as s ∧ s.sent = [call] ∧
      call.job.isForward = true ∧ call.Delivers sendingPlatform.transport s.sources := by
  let run := .save photo .image (Example.clock 0) :: handingPhoto ++ [turnAt 2]
  have trace : (((system sendingPlatform).exec (awaitingPhoto false) run).any fun s =>
      s.sent.length = 1 && s.sent.all fun call => call.job.isForward) = true := by
    decide +kernel
  obtain ⟨s, exec, trace⟩ := (Option.any_eq_true _ _).mp trace
  rw [Bool.and_eq_true, decide_eq_true_eq, List.all_eq_true] at trace
  obtain ⟨call, sent⟩ := List.length_eq_one_iff.mp trace.1
  have mem : call ∈ s.sent := by rw [sent]; exact List.mem_singleton_self call
  have run := System.run_of_exec exec
  have delivers := (forwards_respect_expiry sendingPlatform (fun _ => rfl) isoParser_readsIso
    (awaitingPhoto_start false) run).1
  exact ⟨s, _, call, run, sent, trace.2 call mem, delivers call mem (trace.2 call mem)⟩

/-- The worker hands a job over that is covered, its source is missing, and the
turns after it do not fail the job. -/
def leavesUnfailed (covered : Worker → QueueJob → Bool)
    (guard : Forwarding WAMessage → ForwardingAction → Prop) [∀ s a, Decidable (guard s a)]
    (turns : List ForwardingAction) (s : Forwarding WAMessage) : Bool :=
  ((s.processes.handsOver (.worker .daemon
      { clock := Example.clock 2, wall := Example.clock 2 })).any fun held =>
    covered held.1 held.2 && held.2.isForward && held.2.id = 1 &&
      (ForwardSourceRepository.get s.sources (held.2.forwardSourceKey.getD "")).isNone) &&
  (s.processes.db.job? 1).any (fun row => row.status = .PROCESSING) &&
  ((system sendingPlatform).step s (turnAt 2)).any fun t =>
    ((system sendingPlatform).execWhere guard t turns).any fun u =>
      (u.processes.db.job? 1).any fun row => row.status ≠ .FAILED

theorem not_failsUnusable {covered : Worker → QueueJob → Bool}
    {guard : WorkerId → Nat → Forwarding WAMessage → ForwardingAction → Prop}
    [∀ s a, Decidable (guard .daemon 1 s a)] {turns : List ForwardingAction} (dryRun : Bool)
    (trace : (((system sendingPlatform).exec (awaitingPhoto dryRun) handingPhoto).any
      (leavesUnfailed covered (guard .daemon 1) turns)) = true)
    (count : turns.countP (ForwardingAction.turnOf .daemon) = 3) :
    ¬∀ {s₀ s : Forwarding WAMessage} {as : List ForwardingAction}, Start sendingPlatform s₀ →
      (system sendingPlatform).Run s₀ as s →
      FailsUnusable sendingPlatform (fun w job => covered w job) guard s := by
  intro claim
  obtain ⟨s, exec, trace⟩ := (Option.any_eq_true _ _).mp trace
  rw [leavesUnfailed, Bool.and_eq_true, Bool.and_eq_true] at trace
  obtain ⟨⟨hands, processing⟩, later⟩ := trace
  obtain ⟨⟨w, job⟩, hands, held⟩ := (Option.any_eq_true _ _).mp hands
  obtain ⟨t, step, later⟩ := (Option.any_eq_true _ _).mp later
  obtain ⟨u, later, unfailed⟩ := (Option.any_eq_true _ _).mp later
  obtain ⟨row, found, processing⟩ := (Option.any_eq_true _ _).mp processing
  obtain ⟨row', found', unfailed⟩ := (Option.any_eq_true _ _).mp unfailed
  simp only [Bool.and_eq_true, decide_eq_true_eq, Option.isNone_iff_eq_none] at held
  obtain ⟨⟨⟨covers, forward⟩, same⟩, missing⟩ := held
  have refuses : Refuses sendingPlatform s .daemon
      { clock := Example.clock 2, wall := Example.clock 2 } {} w job := by
    refine ⟨hands, forward, ⟨row, same ▸ found, of_decide_eq_true processing⟩, rfl, rfl, ?_⟩
    rw [missing]
    exact .missing
  have failed := claim (awaitingPhoto_start dryRun) (System.run_of_exec exec) refuses covers step
    (same ▸ System.runWhere_of_execWhere later) count
  obtain ⟨-, ⟨row'', found'', status, -⟩, -⟩ := failed
  rw [same, found'] at found''
  cases found''
  exact of_decide_eq_true unfailed status

/-- An operator retries the job while the worker has it in hand. -/
def retriedTurns : List ForwardingAction :=
  .other (.command (.retry Example.uuid.text "cli") (Example.clock 3)) ::
    List.replicate 3 (turnAt 3)

/-- A live daemon hands over a job whose source is missing: as a dry run it ends
as `DRY_RUN`, and an operator's retry meanwhile keeps it from `FAILED`. -/
theorem dry_run_forwards_without_source :
    (¬∀ {s₀ s : Forwarding WAMessage} {as : List ForwardingAction}, Start sendingPlatform s₀ →
      (system sendingPlatform).Run s₀ as s →
      FailsUnusable sendingPlatform (fun w _ => (w.transport = .baileys : Bool)) Undisturbed s) ∧
    ¬∀ {s₀ s : Forwarding WAMessage} {as : List ForwardingAction}, Start sendingPlatform s₀ →
      (system sendingPlatform).Run s₀ as s →
      FailsUnusable sendingPlatform (fun w job => !w.simulates job) (fun _ _ _ _ => True) s := by
  constructor
  · have turns : (List.replicate 3 (turnAt 3)).countP (ForwardingAction.turnOf .daemon) = 3 := rfl
    exact not_failsUnusable true (by decide +kernel) turns
  · have turns : retriedTurns.countP (ForwardingAction.turnOf .daemon) = 3 := rfl
    exact not_failsUnusable false (by decide +kernel) turns

end Forwarding

end WhatsappBot
