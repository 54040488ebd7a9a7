import WhatsappBot.Runtime.Movers

/-!
# The allowlist at the point of sending

Between a claim and the send a group can be denied, so the worker reads the
destination again before it calls the transport. The runs here interleave at
the awaits of the workers (`AtAwaits`), as the turns of one process do.
`handed_over_allowed` is about every hand-off of a fresh installation;
`denied_stays_queued_out` is about what a denial ends for good and
`paced_job_survives_denial` about the jobs it does not reach.
-/

namespace WhatsappBot

open Lib.SharedStore Lib.Transition JobRepository

/-- The phases in which a worker has nothing running: before a pass, after it,
and at its two awaits. -/
def Phase.awaiting : Phase → Bool
  | starting | ready | pacing _ | sending _ | returned _ | thrown _ | ending _ | ended _ => true
  | _ => false

def Action.party : Action → Option WorkerId
  | .worker id _ => some id
  | _ => none

/-- The end of a process, which no worker can delay. -/
def Action.crashes : Action → Bool
  | .crash _ => true
  | _ => false

/-- The `enabled` that an action writes for a JID. -/
def Action.enables : Action → String → Option Bool
  | .command (.setEnabled jid enabled _) _ => DestinationRepository.enabledWrite jid enabled
  | _ => fun _ => none

/-- What a run has seen: the last `setEnabled` of each JID, and the last job
that each worker's claim returned. -/
structure History where
  enabled : String → Option Bool
  claimed : WorkerId → Option QueueJob

def History.empty : History where
  enabled := fun _ => none
  claimed := fun _ => none

namespace Processes

/-- While an action takes place, every other worker is at an await. -/
def AtAwaits (s : Processes) (a : Action) : Prop :=
  a.crashes ∨ ∀ entry ∈ s.workers.entries, a.party = some entry.1 ∨ entry.2.phase.awaiting

instance (s : Processes) (a : Action) : Decidable (AtAwaits s a) :=
  inferInstanceAs (Decidable (_ ∨ ∀ entry ∈ s.workers.entries, _))

/-- The job that the claim of an action returns. -/
def claims (s : Processes) : Action → Option (WorkerId × QueueJob)
  | .worker id input =>
    match s.workers.lookup id with
    | none => none
    | some w =>
      match w.phase, input.fails with
      | .claiming, false =>
        match claim s.db w.now.toISOString w.reference w.config.dryRun with
        | .ok (some job, _) => some (id, job)
        | _ => none
      | _, _ => none
  | _ => none

def history : Monitor Processes Action History where
  next k s a :=
    { enabled := fun jid => (a.enables jid).or (k.enabled jid)
      claimed :=
        match s.claims a with
        | none => k.claimed
        | some (id, job) => Function.update k.claimed id (some job) }

variable {platform : Platform} {s t : Processes} {a : Action}

/-! ## The `enabled` column -/

theorem enables_of_commits {op : Op} (h : Commits platform s a op) : op.enables = a.enables := by
  cases h with
  | worker found turn =>
    cases QueueWorker.issues_of_turn turn with
    | promote | cancel | claim | transition | forbid => rfl
    | other _ _ enables => exact enables
  | recovery => rfl
  | enqueue found turn => exact (MessageService.target_of_turn turn).2
  | command command now => cases command <;> rfl

theorem allowlisted_step (h : (system platform).step s a = some t) :
    DestinationRepository.Allowlisted s.db t.db a.enables := by
  have quiet : a.enables = (fun _ => none) →
      DestinationRepository.Allowlisted s.db t.db a.enables := by
    intro none
    rcases step_effect h with same | ⟨op, commits, effect⟩
    · rw [none, same]
      exact .of_eq rfl
    · exact enables_of_commits commits ▸ effect.allowlist
  cases a with
  | command command now =>
    obtain ⟨⟨reply, ran⟩, -⟩ := step_command h
    have commits : Commits platform s (.command command now) (command.op now.toISOString) :=
      .command command now
    exact enables_of_commits commits ▸ (Op.run_effect ran).allowlist
  | worker | startDaemon | startCli | requestStop | crash | submit | enqueue | abandon =>
    exact quiet rfl

/-- An enabled destination was last enabled by a command. -/
def EnabledByCommand (k : History) (s : Processes) (only : String → Prop) : Prop :=
  ∀ d ∈ s.db.destinations.rows, only d.jid → d.enabled = true → k.enabled d.jid = some true

theorem EnabledByCommand.step {k : History} {only : String → Prop}
    (h : EnabledByCommand k s only) (step : (system platform).step s a = some t) :
    EnabledByCommand (history.next k s a) t only := by
  intro d' hd' honly enabled
  rcases (allowlisted_step step).origin d' hd' with ⟨d, hd, hjid, written⟩ | ⟨disabled, -⟩
  · simp only [history]
    rw [← hjid] at honly ⊢
    cases hwrite : a.enables d.jid with
    | none =>
      rw [hwrite, Option.getD_none] at written
      rw [Option.none_or]
      exact h d hd honly (written ▸ enabled)
    | some value =>
      rw [hwrite, Option.getD_some] at written
      rw [Option.some_or, ← written, enabled]
  · rw [disabled] at enabled
    cases enabled

/-! ## Between the second read and the send -/

/-- A worker about to send has just read that its destination is allowed. -/
def Checked (s : Processes) : Prop :=
  ∀ id w job, s.workers.lookup id = some w → w.phase = .handing job →
    ∃ d, s.db.destination? job.destinationJid = some d ∧ d.enabled = true ∧ d.canSend = true

theorem Checked.step (h : s.Checked) (wellHeld : s.WellHeld) (atAwaits : AtAwaits s a)
    (step : (system platform).step s a = some t) : t.Checked := by
  intro id w' job found' handing
  have stays : ∀ {w}, s.workers.lookup id = some w → w.phase = .handing job →
      a.party ≠ some id → t.db = s.db := by
    intro w found phase other
    rcases atAwaits with crashes | awaits
    · cases a with
      | crash => rw [step_crash step]
      | worker | startDaemon | startCli | requestStop | submit | enqueue | abandon | command =>
        cases crashes
    · rcases awaits ⟨id, w⟩ (AList.mem_lookup_iff.mp found) with party | awaiting
      · exact absurd party other
      · rw [phase] at awaiting
        cases awaiting
  cases worker_after step found' with
  | kept found other =>
    have same := stays found handing (by
      intro party
      cases a with
      | worker id' input =>
        cases party
        exact other input rfl
      | startDaemon | startCli | requestStop | crash | submit | enqueue | abandon | command =>
        cases party)
    rw [same]
    exact h id w' job found handing
  | @turned input w action found turned =>
    have working : w'.phase.working = some job := by rw [handing]; rfl
    obtain ⟨advance, -⟩ := QueueWorker.advance turned working
    rw [handing] at advance
    generalize target : Phase.handing job = phase at advance
    cases advance with
    | @allowed job' destination before resolves enabled canSend unchanged =>
      cases target
      have held := wellHeld.held found (by rw [before]; rfl)
      rw [DestinationRepository.resolve_jid _ held.normalized] at resolves
      rw [unchanged]
      exact ⟨destination, resolves, enabled, canSend⟩
    | @decided held error before =>
      have taken := QueueWorker.branches w input held error
      rw [← target] at taken
      cases taken
    | claimed | stopped | paced | refused | handed | unsendable | simulated | accepted | rejected
    | recorded | recordedDryRun | noted | interrupted | forbidden => cases target
  | @stopped w action found worker =>
    subst action worker
    have same := stays found handing (by simp only [Action.party, ne_eq, reduceCtorEq,
      not_false_eq_true])
    rw [same]
    exact h id w job found handing
  | daemon action party worker =>
    subst worker
    cases handing
  | cli action party dryRun worker =>
    subst worker
    cases handing

theorem Start.checked (h : s.Start) : s.Checked := by
  intro id w job found
  rw [h.1, AList.lookup_empty] at found
  cases found

/-! ## The job in hand is the claimed one -/

/-- What a worker holds is what its last claim returned. -/
def HoldsClaimed (k : History) (s : Processes) : Prop :=
  ∀ id w job, s.workers.lookup id = some w → w.phase.working = some job → k.claimed id = some job

theorem claims_eq {id : WorkerId} {job : QueueJob} (h : s.claims a = some (id, job)) :
    ∃ input w, a = .worker id input ∧ s.workers.lookup id = some w ∧ w.phase = .claiming := by
  unfold claims at h
  split at h
  · next id' input =>
    split at h
    · cases h
    · next w found =>
      split at h
      · next phase fails =>
        split at h
        · cases h
          exact ⟨input, w, rfl, found, phase⟩
        · cases h
      · cases h
  · cases h

theorem HoldsClaimed.step {k : History} (h : HoldsClaimed k s)
    (step : (system platform).step s a = some t) : HoldsClaimed (history.next k s a) t := by
  intro id w' job found' working'
  rcases held_after step found' working' with ⟨w, found, working, -⟩ |
    ⟨w, input, found, rfl, claiming, granted, -, -, -, ran⟩
  · have before := h id w job found working
    simp only [history]
    cases hclaims : s.claims a with
    | none => exact before
    | some claimed =>
      obtain ⟨id', job'⟩ := claimed
      obtain ⟨input, v, -, found₂, claiming⟩ := claims_eq hclaims
      have other : id ≠ id' := by
        rintro rfl
        rw [found] at found₂
        cases found₂
        rw [claiming] at working
        cases working
      simp only [Function.update_of_ne other]
      exact before
  · have hclaims : s.claims (.worker id input) = some (id, job) := by
      simp only [claims, found, claiming, granted, ran]
    simp only [history, hclaims, Function.update_self]

/-! ## Every hand-off is allowed -/

/-- What is true in every state of a run whose steps are at awaits. -/
structure Guarded (only : String → Prop) (k : History) (s : Processes) : Prop where
  wellHeld : s.WellHeld
  checked : s.Checked
  enabled : EnabledByCommand k s only

theorem Guarded.step {only : String → Prop} {k : History} (h : Guarded only k s)
    (atAwaits : AtAwaits s a) (step : (system platform).step s a = some t) :
    Guarded only (history.next k s a) t where
  wellHeld := h.wellHeld.step step
  checked := h.checked.step h.wellHeld atAwaits step
  enabled := h.enabled.step step

/-- **Allowlist safety at the point of sending.** In every run of a fresh
installation that interleaves at awaits, whenever a worker calls the transport
with a job, the job is the one its last claim returned, `PROCESSING` then; its
destination is enabled and sendable now; and the last `setEnabled` of that
destination enabled it. -/
theorem handed_over_allowed (platform : Platform) {s : Processes} {k : History}
    {as : List Action} {a : Action} {w : Worker} {job : QueueJob}
    (run : (history.observe (system platform)).RunWhere (fun s a => AtAwaits s.1 a)
      (initial, .empty) as (s, k))
    (hands : s.handsOver a = some (w, job)) :
    (∃ d, s.db.destination? job.destinationJid = some d ∧ d.enabled = true ∧ d.canSend = true) ∧
      (∃ id, s.workers.lookup id = some w ∧ k.claimed id = some job ∧ job.status = .PROCESSING) ∧
      k.enabled job.destinationJid = some true := by
  have invariant : Guarded (fun _ => True) k s ∧ HoldsClaimed k s :=
    run.invariant (I := fun s => Guarded (fun _ => True) s.2 s.1 ∧ HoldsClaimed s.2 s.1)
      (fun h atAwaits step => by
        obtain ⟨step, next⟩ := Monitor.observe_step.mp step
        rw [next]
        exact ⟨h.1.step atAwaits step, h.2.step step⟩)
      ⟨⟨initial_start.wellHeld, initial_start.checked, fun _ h => by cases h⟩,
        fun id w job found => by cases found⟩
  obtain ⟨id, input, rfl, found, handing, status⟩ := handsOver_eq hands
  obtain ⟨d, hd, enabled, canSend⟩ := invariant.1.checked id w job found handing
  obtain ⟨hmem, hjid⟩ := Database.mem_of_destination? hd
  refine ⟨⟨d, hd, enabled, canSend⟩, ⟨id, found, ?_, status⟩, ?_⟩
  · exact invariant.2 id w job found (by rw [handing]; rfl)
  · rw [← hjid]
    exact invariant.1.enabled d hmem trivial enabled

/-- A group is discovered, allowed and sent to: the run up to the hand-off. -/
def firstSendRun : List Action :=
  [.command (.synchronize
      [{ jid := Example.group.jid, normalized := Example.group.normalized, subject := "Team" }]
      "startup") (Example.clock 0),
    .command (.setEnabled Example.group.jid true "cli") (Example.clock 1),
    .submit 0 (AppConfig.default false)
      (.message { destination := Example.group.jid, text := some "hello" }),
    .enqueue 0 { wall := Example.clock 2, uuid := Example.uuid },
    .enqueue 0 { wall := Example.clock 3, uuid := Example.uuid },
    .enqueue 0 { wall := Example.clock 4, uuid := Example.uuid },
    .startDaemon (AppConfig.default false) (Example.clock 5), Example.tick .daemon 6,
    Example.tick .daemon 7, Example.tick .daemon 8, Example.tick .daemon 9,
    Example.tick .daemon 10, Example.tick .daemon 11, Example.tick .daemon 12,
    Example.tick .daemon 13, Example.tick .daemon 14]

/-- The first message to a group that was just allowed. -/
theorem handed_over_allowed_first :
    ∃ s k w job, (history.observe (system Example.platform)).RunWhere
        (fun s a => AtAwaits s.1 a) (initial, .empty) firstSendRun (s, k) ∧
      s.handsOver (Example.tick .daemon 15) = some (w, job) ∧
      k.enabled job.destinationJid = some true := by
  have trace : (((history.observe (system Example.platform)).execWhere
      (fun s a => AtAwaits s.1 a) (initial, .empty) firstSendRun).any fun s =>
        (s.1.handsOver (Example.tick .daemon 15)).isSome) = true := by
    decide +kernel
  obtain ⟨⟨s, k⟩, run, trace⟩ := (Option.any_eq_true _ _).mp trace
  obtain ⟨⟨w, job⟩, hands⟩ := Option.isSome_iff_exists.mp trace
  have run := System.runWhere_of_execWhere run
  exact ⟨s, k, w, job, run, hands, (handed_over_allowed Example.platform run hands).2.2⟩

/-! ## What a denial ends -/

def inHand (s : Processes) (id : Nat) : Bool :=
  s.workers.entries.any fun entry =>
    match entry.2.phase.working with
    | none => false
    | some job => job.id = id

theorem not_inHand {id : Nat} (h : s.inHand id = false) {wid : WorkerId} {w : Worker}
    {job : QueueJob} (found : s.workers.lookup wid = some w)
    (working : w.phase.working = some job) : job.id ≠ id := by
  have hany := List.any_eq_false.mp h ⟨wid, w⟩ (AList.mem_lookup_iff.mp found)
  simpa only [working, decide_eq_true_eq] using hany

/-- In every run whose steps meet `G`: no job of a group that existed when the
group was denied is ever handed to a transport again, unless an operator
retries it. -/
def DeniedForGood (platform : Platform) (G : Processes → Action → Prop) : Prop :=
  ∀ {s₀ s t u : Processes} {as bs : List Action} {jid actor : String} {now : Date} {r : QueueJob}
    {a : Action} {w : Worker} {job : QueueJob},
    s₀.Start → (system platform).RunWhere G s₀ as s →
    G s (.command (.setEnabled jid false actor) now) →
    (system platform).step s (.command (.setEnabled jid false actor) now) = some t →
    t.db.job? r.id = some r → r.destinationJid = jid →
    (system platform).RunWhere (fun s a => G s a ∧ a.retries s r.id = false) t bs u →
    u.handsOver a = some (w, job) → job.id ≠ r.id

/-- A job out of the queue and in nobody's hands. -/
structure Parked (s : Processes) (id : Nat) : Prop where
  row : ∃ r, s.db.job? id = some r ∧ r.status ∉ JobStatus.unsent
  hands : ∀ wid w job, s.workers.lookup wid = some w → w.phase.working = some job → job.id ≠ id

theorem Parked.step {id : Nat} (h : s.Parked id) (wellHeld : s.WellHeld)
    (unretried : a.retries s id = false) (step : (system platform).step s a = some t) :
    t.Parked id := by
  obtain ⟨r, found, unqueued⟩ := h.row
  obtain ⟨-, hid⟩ := Database.mem_of_job? found
  constructor
  · rcases mover wellHeld step found with same | ⟨r', found', -, -, mover⟩
    · exact ⟨r, same, unqueued⟩
    · refine ⟨r', found', ?_⟩
      cases mover with
      | queue unsent => exact absurd unsent unqueued
      | recovery _ _ review =>
        rw [review]
        decide
      | pass _ found₂ working _ _ _ same =>
        exact absurd (same.symm.trans hid) (h.hands _ _ _ found₂ working)
      | operator _ status =>
        rcases status with ⟨-, retries⟩ | cancelled | ⟨sent, -⟩
        · rw [hid, unretried] at retries
          cases retries
        · rw [cancelled]
          decide
        · rw [sent]
          decide
  · intro wid w' job found' working' same
    rcases held_after step found' working' with ⟨w, found₂, working, -⟩ |
      ⟨w, input, found₂, -, -, -, -, -, -, ran⟩
    · exact h.hands wid w job found₂ working same
    · rw [← same] at found
      exact absurd (claimed_unsent ran found) unqueued

theorem denied_unqueued {jid actor : String} {now : Date} {r : QueueJob}
    (deny : (system platform).step s (.command (.setEnabled jid false actor) now) = some t)
    (found : t.db.job? r.id = some r) (ofGroup : r.destinationJid = jid) :
    r.status ∉ JobStatus.unsent := by
  obtain ⟨⟨reply, ran⟩, -⟩ := step_command deny
  have effect := Op.run_effect ran
  obtain ⟨hmem, -⟩ := Database.mem_of_job? found
  rcases effect.mem_cases hmem with ⟨before, hbefore, rfl⟩ | inserted
  · have hjid : before.destinationJid = jid :=
      (Op.onRow_identity s.db _ before).destinationJid.trans ofGroup
    unfold Op.onRow
    split
    · rw [Op.writes_status (s := .CANCELLED) rfl]
      decide
    · next unselected =>
      intro unsent
      apply unselected
      simp only [Command.op, Op.selects, unsentWhere, DestinationRepository.ofDestination, hjid,
        unsent, decide_true, Bool.not_false, Bool.and_self]
  · cases inserted

/-- **What a denial ends.** After `setEnabled(jid, false)` has committed, no job
of the group is handed to a transport before a later `setEnabled(jid, true)`;
and a job that existed at the commit and was in no worker's hands then is never
handed to one again, unless an operator retries it. -/
theorem denied_until_allowed (platform : Platform) {s₀ s t : Processes} {as : List Action}
    {jid actor : String} {now : Date} (start : s₀.Start)
    (before : (system platform).RunWhere AtAwaits s₀ as s)
    (atAwaits : AtAwaits s (.command (.setEnabled jid false actor) now))
    (deny : (system platform).step s (.command (.setEnabled jid false actor) now) = some t) :
    (∀ bs u k a w job,
      (history.observe (system platform)).RunWhere (fun s a => AtAwaits s.1 a) (t, .empty) bs
        (u, k) →
      u.handsOver a = some (w, job) → job.destinationJid = jid →
      k.enabled jid = some true) ∧
    (∀ r bs u a w job, t.db.job? r.id = some r → r.destinationJid = jid →
      t.inHand r.id = false →
      (system platform).RunWhere (fun s a => AtAwaits s a ∧ a.retries s r.id = false) t bs u →
      u.handsOver a = some (w, job) → job.id ≠ r.id) := by
  have wellHeld := WellHeld.of_run start before
  have checked : s.Checked :=
    before.invariant_under (J := Checked) (wellHeld_preserved _)
      (fun wellHeld checked atAwaits step => checked.step wellHeld atAwaits step)
      start.wellHeld start.checked
  have wellHeld' := wellHeld.step deny
  constructor
  · intro bs u k a w job after hands same
    have disabled : EnabledByCommand .empty t (· = jid) := by
      intro d' hd' hjid enabled
      rcases (allowlisted_step deny).origin d' hd' with ⟨d, -, hd, written⟩ | ⟨disabled, -⟩
      · rw [hd, hjid] at written
        simp only [Action.enables, DestinationRepository.enabledWrite, if_true, Option.getD_some]
          at written
        rw [written] at enabled
        cases enabled
      · rw [disabled] at enabled
        cases enabled
    have invariant : Guarded (· = jid) k u :=
      after.invariant (I := fun s => Guarded (· = jid) s.2 s.1)
        (fun h atAwaits step => by
          obtain ⟨step, next⟩ := Monitor.observe_step.mp step
          rw [next]
          exact h.step atAwaits step)
        ⟨wellHeld', checked.step wellHeld atAwaits deny, disabled⟩
    obtain ⟨id, input, rfl, found, handing, -⟩ := handsOver_eq hands
    obtain ⟨d, hd, enabled, -⟩ := invariant.checked id w job found handing
    obtain ⟨hmem, hjid⟩ := Database.mem_of_destination? hd
    rw [same] at hjid
    exact hjid ▸ invariant.enabled d hmem hjid enabled
  · intro r bs u a w job found ofGroup free after hands same
    have parked : t.Parked r.id :=
      ⟨⟨r, found, denied_unqueued deny found ofGroup⟩,
        fun wid w job found working => not_inHand free found working⟩
    have stays : ∀ {s a t}, s.WellHeld → s.Parked r.id →
        (AtAwaits s a ∧ a.retries s r.id = false) → (system platform).step s a = some t →
        t.Parked r.id :=
      fun wellHeld parked guard step => parked.step wellHeld guard.2 step
    have parked' : u.Parked r.id :=
      System.RunWhere.invariant_under (I := WellHeld) (J := fun s => s.Parked r.id)
        (wellHeld_preserved fun s a => AtAwaits s a ∧ a.retries s r.id = false) stays after
        wellHeld' parked
    obtain ⟨id, input, rfl, found', handing, -⟩ := handsOver_eq hands
    exact parked'.hands id w job found' (by rw [handing]; rfl) same

/-- The daemon has claimed the job and is pacing. -/
def pacingRun : List Action :=
  [.startDaemon (AppConfig.default false) (Example.clock 0), Example.tick .daemon 1,
    Example.tick .daemon 2, Example.tick .daemon 3, Example.tick .daemon 4,
    Example.tick .daemon 5, Example.tick .daemon 6, Example.tick .daemon 7]

def deny : Action := .command (.setEnabled Example.group.jid false "cli") (Example.clock 8)

/-- A job that is still queued at the denial, and the daemon that finds it cancelled. -/
theorem denied_until_allowed_queued :
    ∃ t u, (system Example.platform).step (Example.installation (Example.job .PENDING false)) deny
        = some t ∧
      (system Example.platform).RunWhere (fun s a => AtAwaits s a ∧ a.retries s 1 = false) t
        (pacingRun.take 7) u ∧
      ∀ a w job, u.handsOver a = some (w, job) → job.id ≠ 1 := by
  have trace : (((system Example.platform).step
      (Example.installation (Example.job .PENDING false)) deny).any fun t =>
        (t.db.job? 1).any (fun r => r.id = 1 && r.destinationJid = Example.group.jid) &&
        !t.inHand 1 &&
        ((system Example.platform).execWhere (fun s a => AtAwaits s a ∧ a.retries s 1 = false) t
          (pacingRun.take 7)).isSome) = true := by
    decide +kernel
  obtain ⟨t, step, trace⟩ := (Option.any_eq_true _ _).mp trace
  rw [Bool.and_eq_true, Bool.and_eq_true, Bool.not_eq_true'] at trace
  obtain ⟨r, found, facts⟩ := (Option.any_eq_true _ _).mp trace.1.1
  simp only [Bool.and_eq_true, decide_eq_true_eq] at facts
  obtain ⟨hid, ofGroup⟩ := facts
  obtain ⟨u, run⟩ := Option.isSome_iff_exists.mp trace.2
  have run := System.runWhere_of_execWhere run
  have ends := denied_until_allowed Example.platform (Example.installation_start _) (.nil _)
    (by decide +kernel) step
  refine ⟨t, u, step, run, fun a w job hands => ?_⟩
  rw [← hid] at found run trace ⊢
  exact ends.2 r _ u a w job found ofGroup trace.1.2 run hands

/-- **A job being paced survives the denial** when the group is allowed again
before the send: the bulk cancellation does not reach a `PROCESSING` job, and
the second read of the destination sees the current flag only. -/
theorem paced_job_survives_denial : ¬DeniedForGood Example.platform AtAwaits := by
  have trace : (((system Example.platform).execWhere AtAwaits
      (Example.installation (Example.job .PENDING false)) pacingRun).any fun s =>
        decide (AtAwaits s deny) &&
        ((system Example.platform).step s deny).any fun t =>
          (t.db.job? 1).any (fun r => r.id = 1 && r.destinationJid = Example.group.jid) &&
          ((system Example.platform).execWhere (fun s a => AtAwaits s a ∧ a.retries s 1 = false) t
            [.command (.setEnabled Example.group.jid true "cli") (Example.clock 9),
              Example.tick .daemon 10, Example.tick .daemon 11]).any fun u =>
            (u.handsOver (Example.tick .daemon 12)).any fun (_, job) => job.id = 1) = true := by
    decide +kernel
  intro claim
  obtain ⟨s, run, trace⟩ := (Option.any_eq_true _ _).mp trace
  rw [Bool.and_eq_true, decide_eq_true_eq] at trace
  obtain ⟨t, step, trace'⟩ := (Option.any_eq_true _ _).mp trace.2
  rw [Bool.and_eq_true] at trace'
  obtain ⟨r, found, facts⟩ := (Option.any_eq_true _ _).mp trace'.1
  simp only [Bool.and_eq_true, decide_eq_true_eq] at facts
  obtain ⟨hid, ofGroup⟩ := facts
  obtain ⟨u, run', trace'⟩ := (Option.any_eq_true _ _).mp trace'.2
  obtain ⟨⟨w, job⟩, hands, same⟩ := (Option.any_eq_true _ _).mp trace'
  have run' := System.runWhere_of_execWhere run'
  rw [← hid] at found run'
  rw [decide_eq_true_eq, ← hid] at same
  exact claim (Example.installation_start _) (System.runWhere_of_execWhere run) trace.1 step
    found ofGroup run' hands same

end Processes

end WhatsappBot
