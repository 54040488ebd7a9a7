import WhatsappBot.Db.ForwardReferences
import WhatsappBot.Db.GroupSetMap
import WhatsappBot.Messaging.Scheduler
import WhatsappBot.Runtime.BulkAccounts
import WhatsappBot.Whatsapp.ControllerExecutor

/-!
# The bulk commands of the command line

`sendall`, `sendmulti`, `sendset` and `queueCliForwardBulk` of
`src/cli/index.ts`, each with the object that it prints at its end. What is
printed accounts for every target that was asked for.
-/

namespace WhatsappBot

open Lib.Relational Lib.SharedStore Lib.Transition

/-- The call that is made. -/
def BulkOutcome.request : BulkOutcome → Option BulkEnqueueRequest
  | reply _ => none
  | enqueue request => some request

namespace Cli

/-! ## What is printed -/

inductive Printed where
  | text (value : String)
  | count (value : Nat)

/-- An object that `output` prints, its properties in order. -/
abbrev Output := List (String × Printed)

/-- The number that is printed under a name. -/
def Output.count (output : Output) (name : String) : Nat :=
  match output.lookup name with
  | some (.count value) => value
  | _ => 0

/-- What a command knows of its targets before it calls the bulk service. -/
inductive BulkDetails where
  | sendall (skipped : Nat)
  | sendmulti
  | sendset (groupSet : String) (members eligible disabled missing : Nat)
  | forward (source : String) (skipped : Nat)

namespace BulkDetails

/-- The `details` of `bulkOutput`. -/
def printed (result : BulkEnqueueResult) : BulkDetails → Output
  | sendall skipped => [("skipped", .count skipped)]
  | sendmulti => []
  | sendset groupSet members eligible disabled missing =>
    [("groupSet", .text groupSet), ("members", .count members), ("eligible", .count eligible),
      ("disabled", .count disabled), ("missing", .count missing)]
  | forward source skipped =>
    [("source", .text source),
      ("skipped", .count (skipped + result.duplicateJobs + result.duplicateTargets))]

/-- The targets that no job of the call was for. -/
def skipped : BulkDetails → Nat
  | sendall skipped | forward _ skipped => skipped
  | sendmulti => 0
  | sendset _ _ _ disabled missing => disabled + missing

/-- The names under which a command prints the targets that it has not queued;
`skipped` of a forward has the duplicates in it. -/
def unqueued : BulkDetails → List String
  | sendall _ => ["skipped", "duplicates", "failed"]
  | sendmulti => ["duplicates", "failed"]
  | sendset .. => ["disabled", "missing", "duplicates", "failed"]
  | forward .. => ["skipped", "failed"]

end BulkDetails

def bulkOutput (result : BulkEnqueueResult) (details : Output) : Output :=
  details ++
    [("targets", .count result.targets),
      ("queued", .count result.queued),
      ("duplicates", .count (result.duplicateJobs + result.duplicateTargets)),
      ("failed", .count result.failed),
      ("batchId", .text result.batchId)]

/-- What a command comes to before its first await. -/
inductive LineStart where
  | printed (output : Output)
  | enqueue (request : BulkEnqueueRequest) (requestedCount : Nat) (details : BulkDetails)

/-- The call that is made. -/
def LineStart.request : LineStart → Option BulkEnqueueRequest
  | printed _ => none
  | enqueue request _ _ => some request

/-! ## The commands -/

section

variable (codec : JidCodec)

/-- `sendAll` with what it prints. -/
def startAll (db : Database) (text : String) (force : Bool) : Except AppError LineStart :=
  (TargetResolver.snapshotAllowed codec db).bind fun snapshot =>
    if snapshot.destinations = [] then
      .error (.error "No allowed and sendable groups were found")
    else .ok <| .enqueue
      { type := .sendall
        destinations := snapshot.destinations
        text := some text
        force := some force
        actor := some "cli"
        duplicateTargets := some snapshot.duplicates }
      snapshot.requested (.sendall snapshot.skipped)

/-- `sendMulti` with what it prints. -/
def startMulti (db : Database) (rawTargets : List String) (text : String) (force : Bool) :
    Except AppError LineStart :=
  let inputs := targetInputs rawTargets
  (TargetResolver.resolveTargets codec db inputs true).bind fun resolved =>
    if resolved.issues ≠ [] then
      .error (.error
        ("Multi-send aborted; invalid targets: " ++ targetIssueMessage resolved.issues))
    else if resolved.destinations = [] then
      .error (.error "At least one destination is required")
    else .ok <| .enqueue
      { type := .sendmulti
        destinations := resolved.destinations
        text := some text
        force := some force
        actor := some "cli"
        duplicateTargets := some resolved.duplicates }
      inputs.length .sendmulti

/-- With what they print, the commands send what they do without it. -/
theorem start_outcome (db : Database) (rawTargets : List String) (text : String) (force : Bool) :
    (startAll codec db text force).map LineStart.request =
        (sendAll codec db text force).map BulkOutcome.request ∧
      (startMulti codec db rawTargets text force).map LineStart.request =
        (sendMulti codec db rawTargets text force).map BulkOutcome.request := by
  constructor
  · unfold startAll sendAll
    cases TargetResolver.snapshotAllowed codec db with
    | error e => rfl
    | ok snapshot =>
      simp only [Except.bind]
      split <;> rfl
  · unfold startMulti sendMulti
    dsimp only
    cases TargetResolver.resolveTargets codec db (targetInputs rawTargets) true with
    | error e => rfl
    | ok resolved =>
      simp only [Except.bind]
      split
      · rfl
      · split <;> rfl

/-- The name of a set and its members, if there is such a set. -/
def requireMembers (store : GroupSetStore) (rawName : String) :
    Except AppError (String × List GroupSetMember) :=
  (normalizeGroupSetName rawName).bind fun name =>
    match BulkControllerCommands.membersOf store name with
    | none => .error (.error ("Group set not found: " ++ name))
    | some members => .ok (name, members)

/-- The members that are destinations. -/
def presentMembers (members : List GroupSetMember) : List String :=
  (members.filter fun member => member.destination.isSome).map GroupSetMember.jid

def startSet (store : GroupSetStore) (rawName text : String) (force : Bool) :
    Except AppError LineStart :=
  (requireMembers store rawName).bind fun (name, members) =>
    let present := presentMembers members
    (TargetResolver.resolveTargets codec store.db present true).bind fun resolved =>
      let disabled := resolved.issues.countP fun issue =>
        issue.reason = .disabled || issue.reason = .notSendable
      let missing := members.length - present.length + resolved.issues.length - disabled
      if resolved.destinations = [] then
        .error (.error ("No eligible groups in set: " ++ name))
      else .ok <| .enqueue
        { type := .sendset
          destinations := resolved.destinations
          text := some text
          force := some force
          actor := some "cli"
          duplicateTargets := some resolved.duplicates }
        members.length
        (.sendset name members.length resolved.destinations.length disabled missing)

/-! ### Forwards -/

variable {Bytes : Type} (dates : DateParser)

def requireForwardSource (sources : ForwardSources Bytes) (reference : String)
    (scheduledAt : Option Date) (now : Date) : Except AppError String :=
  (ForwardSourceRepository.resolve sources reference).bind fun
    | none => .error (.error ("Forward source is not stored. Use `wts forwardsources` and " ++
        "forward it into Message Yourself again if needed."))
    | some source =>
      if source.expired dates (scheduledAt.getD now) then
        .error (.error ("Forward source media expires before delivery. " ++
          "Forward it into Message Yourself again."))
      else .ok source.sourceKey

inductive ForwardMode where
  | forwardall
  | forwardmulti (targets : List String)
  | forwardset (name : String)

/-- The variables that each mode sets. -/
structure ForwardTargets where
  destinations : List Destination
  requested : Nat
  duplicateTargets : Nat
  skipped : Nat
  type : BatchType

def forwardTargets (store : GroupSetStore) : ForwardMode → Except AppError ForwardTargets
  | .forwardall =>
    (TargetResolver.snapshotAllowed codec store.db).map fun snapshot =>
      { destinations := snapshot.destinations
        requested := snapshot.requested
        duplicateTargets := snapshot.duplicates
        skipped := snapshot.skipped
        type := .sendall }
  | .forwardmulti targets =>
    let inputs := targetInputs targets
    if inputs = [] then .error (.error "At least one group target is required")
    else (TargetResolver.resolveTargets codec store.db inputs true).bind fun resolved =>
      if resolved.issues ≠ [] then
        .error (.error
          ("Multi-forward aborted; invalid targets: " ++ targetIssueMessage resolved.issues))
      else .ok
        { destinations := resolved.destinations
          requested := inputs.length
          duplicateTargets := resolved.duplicates
          skipped := 0
          type := .sendmulti }
  | .forwardset rawName =>
    (requireMembers store rawName).bind fun (_, members) =>
      (TargetResolver.resolveTargets codec store.db (presentMembers members) true).map
        fun resolved =>
          { destinations := resolved.destinations
            requested := members.length
            duplicateTargets := resolved.duplicates
            skipped := members.length - resolved.destinations.length - resolved.duplicates
            type := .sendset }

/-- `options.at ? parseSchedule(options.at) : undefined`. -/
def scheduledAt (now : Date) (time : Option String) : Except AppError (Option Date) :=
  match time.filter fun time => time ≠ "" with
  | none => .ok none
  | some time => (Scheduler.parseSchedule dates time now).map some

def queueCliForwardBulk (store : GroupSetStore) (sources : ForwardSources Bytes) (now : Date)
    (mode : ForwardMode) (source : String) (time : Option String) : Except AppError LineStart :=
  (scheduledAt dates now time).bind fun scheduledAt =>
    (requireForwardSource dates sources source scheduledAt now).bind fun sourceKey =>
      (forwardTargets codec store mode).map fun targets =>
        if targets.destinations = [] then
          .printed
            [("source", .text sourceKey),
              ("targets", .count targets.requested),
              ("queued", .count 0),
              ("skipped", .count targets.skipped),
              ("failed", .count 0)]
        else .enqueue
          { type := targets.type
            destinations := targets.destinations
            forwardSourceKey := some sourceKey
            scheduledAt := scheduledAt
            actor := some "cli"
            duplicateTargets := some targets.duplicateTargets }
          targets.requested (.forward sourceKey targets.skipped)

end

/-- A bulk command with its arguments and options. -/
inductive BulkLine where
  | sendall (text : String) (force : Bool)
  | sendmulti (rawTargets : List String) (text : String) (force : Bool)
  | sendset (rawName text : String) (force : Bool)
  | forward (mode : ForwardMode) (source : String) (time : Option String)

def BulkLine.start {Bytes : Type} (codec : JidCodec) (dates : DateParser) (store : GroupSetStore)
    (sources : ForwardSources Bytes) (now : Date) : BulkLine → Except AppError LineStart
  | sendall text force => startAll codec store.db text force
  | sendmulti rawTargets text force => startMulti codec store.db rawTargets text force
  | sendset rawName text force => startSet codec store rawName text force
  | forward mode source time => queueCliForwardBulk codec dates store sources now mode source time

/-! ## Every target is counted -/

section

variable {codec : JidCodec} {db : Database} {store : GroupSetStore}

theorem ok_of_bind {α β : Type} {x : Except AppError α} {f : α → Except AppError β} {b : β}
    (h : x.bind f = .ok b) : ∃ a, x = .ok a ∧ f a = .ok b := by
  cases x with
  | error e => cases h
  | ok a => exact ⟨a, rfl, h⟩

theorem ok_of_map {α β : Type} {x : Except AppError α} {f : α → β} {b : β}
    (h : x.map f = .ok b) : ∃ a, x = .ok a ∧ f a = b := by
  cases x with
  | error e => cases h
  | ok a => exact ⟨a, rfl, Except.ok.inj h⟩

/-- A duplicate comes after a target that has been resolved. -/
theorem visit_duplicates {requireAllowed : Bool} {p p' : TargetResolver.Progress} {input : String}
    (first : p.resolved = [] → p.seen = [] ∧ p.duplicates = 0)
    (h : TargetResolver.visit codec db requireAllowed p input = .ok p') :
    p'.resolved = [] → p'.seen = [] ∧ p'.duplicates = 0 := by
  unfold TargetResolver.visit at h
  dsimp only at h
  split at h
  · cases h
    exact first
  · split at h
    · cases h
      exact first
    · split at h
      · cases h
      · split at h
        · next seen =>
          cases h
          intro none
          rw [(first none).1] at seen
          cases seen
        · cases h
          intro none
          cases List.append_ne_nil_of_right_ne_nil p.resolved (List.cons_ne_nil _ _) none

theorem resolveTargets_duplicates {inputs : List String} {requireAllowed : Bool}
    {resolved : ResolveTargetsResult}
    (h : TargetResolver.resolveTargets codec db inputs requireAllowed = .ok resolved)
    (none : resolved.destinations = []) : resolved.duplicates = 0 := by
  have visits : ∀ (inputs : List String) (p p' : TargetResolver.Progress),
      (p.resolved = [] → p.seen = [] ∧ p.duplicates = 0) →
      inputs.foldlM (TargetResolver.visit codec db requireAllowed) p = .ok p' →
      p'.resolved = [] → p'.seen = [] ∧ p'.duplicates = 0 := by
    intro inputs
    induction inputs with
    | nil =>
      intro p p' first ran
      cases ran
      exact first
    | cons input inputs ih =>
      intro p p' first ran
      rw [List.foldlM_cons] at ran
      obtain ⟨p₁, visited, rest⟩ := ok_of_bind ran
      exact ih p₁ p' (visit_duplicates first visited) rest
  obtain ⟨p, ran, rfl⟩ := ok_of_map h
  exact (visits inputs _ p (fun _ => ⟨rfl, rfl⟩) ran none).2

theorem snapshotAllowed_duplicates {snapshot : AllowedSnapshot}
    (h : TargetResolver.snapshotAllowed codec db = .ok snapshot)
    (none : snapshot.destinations = []) : snapshot.duplicates = 0 := by
  obtain ⟨resolved, ran, rfl⟩ := ok_of_map h
  exact resolveTargets_duplicates ran none

/-- What the resolver makes of its inputs, all of which it counts. -/
theorem resolved_count {inputs : List String} {requireAllowed : Bool}
    {resolved : ResolveTargetsResult}
    (h : TargetResolver.resolveTargets codec db inputs requireAllowed = .ok resolved)
    (filled : ∀ input ∈ inputs, trim input ≠ "") :
    inputs.length =
      resolved.destinations.length + resolved.issues.length + resolved.duplicates := by
  obtain ⟨result, ran, count, -⟩ :=
    TargetResolver.resolveTargets_spec codec db inputs requireAllowed
  cases h.symm.trans ran
  rw [← count, TargetResolver.nonBlank,
    List.filter_eq_self.mpr fun input mem => decide_eq_true (filled input mem)]

theorem snapshot_count {snapshot : AllowedSnapshot}
    (h : TargetResolver.snapshotAllowed codec db = .ok snapshot) :
    snapshot.requested =
      snapshot.destinations.length + snapshot.skipped + snapshot.duplicates := by
  obtain ⟨result, ran, -, count, -⟩ := TargetResolver.snapshotAllowed_spec codec db
  cases h.symm.trans ran
  exact count

theorem targetInputs_filled (values : List String) :
    ∀ input ∈ targetInputs values, trim input ≠ "" := by
  intro input mem
  obtain ⟨mem, filled⟩ := List.mem_filter.mp mem
  obtain ⟨text, -, rfl⟩ := List.mem_map.mp mem
  rw [trim_trim]
  exact of_decide_eq_true filled

/-- The members that are destinations have JIDs. -/
theorem presentMembers_filled {rawName name : String} {members : List GroupSetMember}
    (h : requireMembers store rawName = .ok (name, members)) :
    ∀ jid ∈ presentMembers members, trim jid ≠ "" := by
  intro jid mem
  obtain ⟨member, shown, rfl⟩ := List.mem_map.mp mem
  obtain ⟨listed, present⟩ := List.mem_filter.mp shown
  obtain ⟨destination, joined⟩ := Option.isSome_iff_exists.mp present
  obtain ⟨accepted, -, required⟩ := ok_of_bind h
  split at required
  · cases required
  · next found =>
    cases required
    unfold BulkControllerCommands.membersOf at found
    split at found
    · rw [GroupSetRepository.members_joined store found listed] at joined
      rw [← (mem_of_findBy joined).2]
      exact TargetResolver.trim_ne_empty destination.normalized
    · cases found

theorem presentMembers_le (members : List GroupSetMember) :
    (presentMembers members).length ≤ members.length := by
  rw [presentMembers, List.length_map]
  exact List.length_filter_le _ _

/-- A call for its destinations, with what it knows of the others. -/
def Complete (request : BulkEnqueueRequest) (requestedCount : Nat) (details : BulkDetails) : Prop :=
  requestedCount =
    request.destinations.length + request.duplicateTargets.getD 0 + details.skipped

theorem startAll_complete {text : String} {force : Bool} {request : BulkEnqueueRequest}
    {requestedCount : Nat} {details : BulkDetails}
    (h : startAll codec db text force = .ok (.enqueue request requestedCount details)) :
    Complete request requestedCount details := by
  obtain ⟨snapshot, ran, started⟩ := ok_of_bind h
  split at started
  · cases started
  · cases started
    have count := snapshot_count ran
    simp only [Complete, Option.getD_some, BulkDetails.skipped]
    omega

theorem startMulti_complete {rawTargets : List String} {text : String} {force : Bool}
    {request : BulkEnqueueRequest} {requestedCount : Nat} {details : BulkDetails}
    (h : startMulti codec db rawTargets text force =
      .ok (.enqueue request requestedCount details)) :
    Complete request requestedCount details := by
  obtain ⟨resolved, ran, started⟩ := ok_of_bind h
  split at started
  · cases started
  · next issues =>
    split at started
    · cases started
    · cases started
      have count := resolved_count ran (targetInputs_filled rawTargets)
      rw [not_not.mp issues, List.length_nil] at count
      simp only [Complete, Option.getD_some, BulkDetails.skipped]
      omega

theorem startSet_complete {rawName text : String} {force : Bool}
    {request : BulkEnqueueRequest} {requestedCount : Nat} {details : BulkDetails}
    (h : startSet codec store rawName text force =
      .ok (.enqueue request requestedCount details)) :
    Complete request requestedCount details := by
  obtain ⟨⟨name, members⟩, found, h⟩ := ok_of_bind h
  obtain ⟨resolved, ran, started⟩ := ok_of_bind h
  split at started
  · cases started
  · cases started
    have count := resolved_count ran (presentMembers_filled found)
    have present := presentMembers_le members
    have disabled := List.countP_le_length (l := resolved.issues) (p := fun issue =>
      issue.reason = .disabled || issue.reason = .notSendable)
    simp only [Complete, Option.getD_some, BulkDetails.skipped]
    omega

/-- What each mode of a forward counts. -/
theorem forwardTargets_count {mode : ForwardMode} {targets : ForwardTargets}
    (h : forwardTargets codec store mode = .ok targets) :
    targets.requested =
      targets.destinations.length + targets.duplicateTargets + targets.skipped ∧
    (targets.destinations = [] → targets.duplicateTargets = 0) := by
  cases mode with
  | forwardall =>
    unfold forwardTargets at h
    obtain ⟨snapshot, ran, rfl⟩ := ok_of_map h
    refine ⟨?_, snapshotAllowed_duplicates ran⟩
    have count := snapshot_count ran
    dsimp only
    omega
  | forwardmulti values =>
    unfold forwardTargets at h
    dsimp only at h
    split at h
    · cases h
    · obtain ⟨resolved, ran, chosen⟩ := ok_of_bind h
      split at chosen
      · cases chosen
      · next issues =>
        cases chosen
        refine ⟨?_, resolveTargets_duplicates ran⟩
        have count := resolved_count ran (targetInputs_filled values)
        rw [not_not.mp issues, List.length_nil] at count
        dsimp only
        omega
  | forwardset rawName =>
    unfold forwardTargets at h
    obtain ⟨⟨name, members⟩, found, h⟩ := ok_of_bind h
    obtain ⟨resolved, ran, rfl⟩ := ok_of_map h
    refine ⟨?_, resolveTargets_duplicates ran⟩
    have count := resolved_count ran (presentMembers_filled found)
    have present := presentMembers_le members
    dsimp only
    omega

theorem BulkLine.start_complete {Bytes : Type} {dates : DateParser}
    {sources : ForwardSources Bytes} {now : Date} {line : BulkLine} {request : BulkEnqueueRequest}
    {requestedCount : Nat} {details : BulkDetails}
    (h : line.start codec dates store sources now =
      .ok (.enqueue request requestedCount details)) :
    Complete request requestedCount details := by
  cases line with
  | sendall text force => exact startAll_complete h
  | sendmulti rawTargets text force => exact startMulti_complete h
  | sendset rawName text force => exact startSet_complete h
  | forward mode source time =>
    unfold BulkLine.start queueCliForwardBulk at h
    obtain ⟨scheduled, -, h⟩ := ok_of_bind h
    obtain ⟨sourceKey, -, h⟩ := ok_of_bind h
    obtain ⟨targets, ran, started⟩ := ok_of_map h
    split at started
    · cases started
    · cases started
      have count := (forwardTargets_count ran).1
      simp only [Complete, Option.getD_some, BulkDetails.skipped]
      omega

/-- Only a forward prints without a call, and it has skipped every target. -/
theorem BulkLine.start_printed {Bytes : Type} {dates : DateParser}
    {sources : ForwardSources Bytes} {now : Date} {line : BulkLine} {output : Output}
    (h : line.start codec dates store sources now = .ok (.printed output)) :
    (∃ mode source time, line = .forward mode source time) ∧
      output.count "targets" =
        output.count "queued" + output.count "skipped" + output.count "failed" := by
  cases line with
  | sendall text force =>
    unfold BulkLine.start startAll at h
    obtain ⟨snapshot, -, started⟩ := ok_of_bind h
    split at started <;> cases started
  | sendmulti rawTargets text force =>
    unfold BulkLine.start startMulti at h
    obtain ⟨resolved, -, started⟩ := ok_of_bind h
    split at started
    · cases started
    · split at started <;> cases started
  | sendset rawName text force =>
    unfold BulkLine.start startSet at h
    obtain ⟨⟨name, members⟩, -, h⟩ := ok_of_bind h
    obtain ⟨resolved, -, started⟩ := ok_of_bind h
    split at started <;> cases started
  | forward mode source time =>
    refine ⟨⟨mode, source, time, rfl⟩, ?_⟩
    unfold BulkLine.start queueCliForwardBulk at h
    obtain ⟨scheduled, -, h⟩ := ok_of_bind h
    obtain ⟨sourceKey, -, h⟩ := ok_of_bind h
    obtain ⟨targets, ran, started⟩ := ok_of_map h
    split at started
    · next none =>
      cases started
      obtain ⟨count, duplicates⟩ := forwardTargets_count ran
      rw [none, List.length_nil, duplicates none] at count
      simp only [Output.count, List.lookup_cons, String.reduceBEq]
      omega
    · cases started

end

end Cli

/-! ## The end of a call -/

theorem setByJid_length (unique : List Destination) (destination : Destination) :
    (setByJid unique destination).length ≤ unique.length + 1 := by
  unfold setByJid
  split
  · rw [List.length_map]
    exact Nat.le_succ _
  · rw [List.length_append, List.length_singleton]

theorem uniqueByJid_length (destinations : List Destination) :
    (uniqueByJid destinations).length ≤ destinations.length := by
  have grows : ∀ unique : List Destination,
      (destinations.foldl setByJid unique).length ≤ unique.length + destinations.length := by
    induction destinations with
    | nil => exact fun unique => Nat.le_refl _
    | cons destination rest ih =>
      intro unique
      have one := setByJid_length unique destination
      have others := ih (setByJid unique destination)
      rw [List.foldl_cons, List.length_cons]
      omega
  have all := grows []
  rw [List.length_nil, Nat.zero_add] at all
  exact all

namespace Bulk

/-- A call that has returned reports the duplicates among its targets. -/
def Reports (b : Bulk) : Prop :=
  ∀ result, b.phase = .returned result →
    result.duplicateTargets = b.request.duplicateTargets.getD 0 + b.request.destinations.length -
      b.destinations.length

variable {platform : KeyPlatform} {b b' : Bulk} {i : EnqueueInput} {db db' : Database}

theorem next_reports (b : Bulk) (batchId : Uuid) (counters : Counters) (rest : List Destination) :
    (b.goto (b.next batchId counters rest)).Reports := by
  intro result returned
  cases rest with
  | nil =>
    cases returned
    rfl
  | cons destination rest => cases returned

theorem settle_reports (b : Bulk) (batchId : Uuid) (destination : Destination)
    (rest : List Destination) (counters : Counters) (call : Enqueue) :
    (b.goto (b.settle batchId destination rest counters call)).Reports := by
  unfold settle
  split
  · split
    · exact next_reports b batchId _ rest
    · exact next_reports b batchId _ rest
  · exact next_reports b batchId _ rest
  · intro result returned
    cases returned

theorem step_reports (reports : b.Reports) (h : b.step platform i db = (b', db')) :
    b'.request = b.request ∧ b'.Reports := by
  cases phase : b.phase with
  | creating =>
    rcases Bulk.step_creating phase h with ⟨error, rfl, -⟩ | ⟨rfl, -⟩
    · exact ⟨rfl, fun result returned => (by cases returned)⟩
    · exact ⟨rfl, next_reports b _ _ _⟩
  | enqueueing batchId call destination rest counters =>
    obtain ⟨call', -, rfl⟩ := Bulk.step_enqueueing phase h
    exact ⟨rfl, settle_reports b batchId destination rest counters call'⟩
  | returned | thrown =>
    simp only [Bulk.step, phase, Prod.mk.injEq] at h
    rw [← h.1]
    exact ⟨rfl, reports⟩

end Bulk

namespace BulkSends

variable {platform : Platform} {codec : JidCodec} {s t : BulkSends} {n : Nat}
  {request : BulkEnqueueRequest}

/-- The call with this number is the one for this request. -/
def Serves (n : Nat) (request : BulkEnqueueRequest) (s : BulkSends) : Prop :=
  ∃ b, s.bulks.lookup n = some b ∧ b.request = request ∧ b.Reports

theorem Serves.startBulk (h : Serves n request s) {n' : Nat} {config : AppConfig}
    {request' : BulkEnqueueRequest} (started : s.startBulk n' config request' = some t) :
    Serves n request t := by
  obtain ⟨b, found, serves⟩ := h
  refine ⟨b, ?_, serves⟩
  unfold BulkSends.startBulk at started
  split at started
  · cases started
  · next free =>
    cases started
    have other : n ≠ n' := by
      rintro rfl
      cases found.symm.trans free
    rw [AList.lookup_insert_ne other]
    exact found

/-- Nobody takes the number of a call while it is not abandoned. -/
theorem Serves.preserved (n : Nat) (request : BulkEnqueueRequest) :
    (system platform codec).Preserves (fun _ a => a ≠ .abandonBulk n) (Serves n request) := by
  intro s a t h kept step
  cases a with
  | process action =>
    obtain ⟨-, -, bulks⟩ := step_process step
    obtain ⟨b, found, serves⟩ := h
    exact ⟨b, bulks ▸ found, serves⟩
  | start n' config request' => exact h.startBulk step
  | command n' config command =>
    simp only [system, BulkSends.step] at step
    split at step
    · exact h.startBulk step
    · cases step
      exact h
    · cases step
      exact h
  | bulk n' input =>
    obtain ⟨b', b'', found', -, turned, bulks, -⟩ := step_bulk step
    obtain ⟨b, found, same, reports⟩ := h
    by_cases own : n = n'
    · subst own
      cases found.symm.trans found'
      obtain ⟨request', reports'⟩ := Bulk.step_reports reports turned
      exact ⟨b'', by rw [bulks, AList.lookup_insert], request'.trans same, reports'⟩
    · exact ⟨b, by rw [bulks, AList.lookup_insert_ne own, found], same, reports⟩
  | abandonBulk n' =>
    obtain ⟨b, found, serves⟩ := h
    have other : n ≠ n' := by
      rintro rfl
      exact kept rfl
    refine ⟨b, ?_, serves⟩
    rw [step_abandonBulk step, AList.lookup_erase_ne other]
    exact found

theorem start_serves {config : AppConfig}
    (h : (system platform codec).step s (.start n config request) = some t) :
    Serves n request t := by
  rw [startBulk_eq h]
  exact ⟨_, AList.lookup_insert _, rfl, fun result returned => (by cases returned)⟩

end BulkSends

namespace Cli

/-- What is printed of a call that has counted each of its targets once. -/
theorem Complete.printed {request : BulkEnqueueRequest} {requestedCount : Nat}
    {details : BulkDetails} (complete : Complete request requestedCount details)
    {result : BulkEnqueueResult} {unique : Nat} (few : unique ≤ request.destinations.length)
    (counted : unique = result.queued + result.duplicateJobs + result.failed)
    (duplicates : result.duplicateTargets =
      request.duplicateTargets.getD 0 + request.destinations.length - unique) :
    requestedCount = (bulkOutput result (details.printed result)).count "queued" +
      (details.unqueued.map (bulkOutput result (details.printed result)).count).sum := by
  unfold Complete at complete
  cases details <;>
    simp only [BulkDetails.skipped, BulkDetails.unqueued, BulkDetails.printed, bulkOutput,
      Output.count, List.lookup_cons, String.reduceBEq, List.cons_append, List.nil_append,
      List.map_cons, List.map_nil, List.sum_cons, List.sum_nil] at complete ⊢ <;>
    omega

end Cli

namespace BulkSends

open Cli

/-- **What a bulk command prints accounts for every target.** Only a forward prints
without a call, when it has nothing to send, and then every target as skipped; and
once the call of a command has returned, whatever came between, the targets that it
was asked for are those that it prints as queued or under its other names, and its
batch has a job for each that it prints as queued. -/
theorem bulk_output_accounts (platform : Platform) (codec : JidCodec) {Bytes : Type}
    {s₀ s₁ : BulkSends} {as : List BulkAction} (start : s₀.Start)
    (before : (system platform codec).Run s₀ as s₁) (tables : GroupSetTables)
    (sources : ForwardSources Bytes) (now : Date) (line : BulkLine) :
    (∀ output, line.start codec platform.dates ⟨s₁.processes.db, tables⟩ sources now =
        .ok (.printed output) →
      (∃ mode source time, line = .forward mode source time) ∧
        output.count "targets" =
          output.count "queued" + output.count "skipped" + output.count "failed") ∧
    ∀ request requestedCount details,
      line.start codec platform.dates ⟨s₁.processes.db, tables⟩ sources now =
        .ok (.enqueue request requestedCount details) →
      ∀ n config s₂ bs t, (system platform codec).step s₁ (.start n config request) = some s₂ →
        (system platform codec).RunWhere (fun _ a => a ≠ .abandonBulk n) s₂ bs t →
        ∀ b result, t.bulks.lookup n = some b → b.phase = .returned result →
          requestedCount = (bulkOutput result (details.printed result)).count "queued" +
            (details.unqueued.map (bulkOutput result (details.printed result)).count).sum ∧
          Counts t.processes.db result := by
  refine ⟨fun output printed => BulkLine.start_printed printed, ?_⟩
  intro request requestedCount details started n config s₂ bs t step after b result found returned
  have complete := BulkLine.start_complete started
  have acc : t.Accounted :=
    after.run.invariant (fun h _ step => h.step step) ((Accounted.of_run start before).step step)
  obtain ⟨b', found', rfl, reports⟩ :=
    after.invariant (Serves.preserved n request) (start_serves step)
  cases found.symm.trans found'
  have sound := acc.sound found
  rw [returned] at sound
  refine ⟨?_, (acc.seal found returned).counts⟩
  exact complete.printed (uniqueByJid_length _) sound.2.1 (reports result returned)

/-! ## A target that is named twice -/

/-- What a start calls. -/
def call? (start : Except AppError LineStart) :
    Option (BulkEnqueueRequest × Nat × BulkDetails) :=
  match start with
  | .ok (.enqueue request requestedCount details) => some (request, requestedCount, details)
  | .ok (.printed _) | .error _ => none

theorem start_of_call {start : Except AppError LineStart} {request : BulkEnqueueRequest}
    {requestedCount : Nat} {details : BulkDetails}
    (h : call? start = some (request, requestedCount, details)) :
    start = .ok (.enqueue request requestedCount details) := by
  unfold call? at h
  split at h
  · cases h
    rfl
  · cases h
  · cases h

/-- What the command finds. -/
def twice : Except AppError LineStart :=
  (BulkLine.sendmulti [Example.group.jid ++ ", " ++ Example.group.jid] "hello" false).start
    SelfChat.plain.jids Example.platform.dates ⟨Example.vacant.db, .empty⟩
    (default : ForwardSources Unit) (Example.clock 0)

/-- The turns of its call. -/
def turns : List BulkAction :=
  [.bulk 0 { wall := Example.clock 0, uuid := Example.uuid },
    .bulk 0 { wall := Example.clock 1, uuid := Example.uuid },
    .bulk 0 { wall := Example.clock 2, uuid := Example.otherUuid },
    .bulk 0 { wall := Example.clock 3, uuid := Example.otherUuid }]

/-- What the call prints when it has returned. -/
def printedBy (request : BulkEnqueueRequest) (details : BulkDetails) : Option Output :=
  ((system Example.platform SelfChat.plain.jids).exec ⟨Example.vacant, ∅⟩
    (.start 0 (AppConfig.default false) request :: turns)).bind fun t =>
      (t.bulks.lookup 0).bind fun b => (result? b).map fun result =>
        bulkOutput result (details.printed result)

theorem bulk_output_accounts_twice : ∃ request requestedCount details output,
    twice = .ok (.enqueue request requestedCount details) ∧
      printedBy request details = some output ∧ requestedCount = 2 ∧
      output.count "queued" = 1 ∧ output.count "duplicates" = 1 ∧
      requestedCount = output.count "queued" + (details.unqueued.map output.count).sum := by
  have trace : ((call? twice).any fun call => (printedBy call.1 call.2.2).any fun output =>
      decide (call.2.1 = 2 ∧ output.count "queued" = 1 ∧ output.count "duplicates" = 1)) =
        true := by
    decide +kernel
  obtain ⟨⟨request, requestedCount, details⟩, called, trace⟩ := (Option.any_eq_true _ _).mp trace
  obtain ⟨output, printed, trace⟩ := (Option.any_eq_true _ _).mp trace
  obtain ⟨two, queued, duplicates⟩ := of_decide_eq_true trace
  have started := start_of_call called
  refine ⟨request, requestedCount, details, output, started, printed, two, queued, duplicates, ?_⟩
  obtain ⟨t, ran, printed⟩ := Option.bind_eq_some_iff.mp printed
  obtain ⟨b, found, printed⟩ := Option.bind_eq_some_iff.mp printed
  obtain ⟨result, returned, rfl⟩ := Option.map_eq_some_iff.mp printed
  obtain ⟨s₂, step, ran⟩ := Option.bind_eq_some_iff.mp ran
  obtain ⟨-, accounts⟩ := bulk_output_accounts Example.platform SelfChat.plain.jids
    ⟨Example.vacant_start, rfl⟩ (.nil ⟨Example.vacant, ∅⟩) .empty (default : ForwardSources Unit)
    (Example.clock 0)
    (.sendmulti [Example.group.jid ++ ", " ++ Example.group.jid] "hello" false)
  have kept : ∀ a ∈ turns, a ≠ .abandonBulk 0 := by
    simp only [turns, List.mem_cons, List.not_mem_nil, or_false, forall_eq_or_imp, forall_eq, ne_eq,
      reduceCtorEq, not_false_eq_true, and_self]
  exact (accounts request requestedCount details started 0 _ s₂ turns t step
    ((System.run_of_exec ran).of_forall fun a mem _ _ => kept a mem) b result found
    (phase_of_result returned)).1

end BulkSends

end WhatsappBot
