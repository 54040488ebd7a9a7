import WhatsappBot.Messaging.JobUuids
import WhatsappBot.Whatsapp.ControllerWrites

/-!
# Replies are no commands

A reply is a message of the account to itself, as a command is. It comes back
to the controller, which would take it for a command if it started with a
slash. Each reply starts with a character of its own.
-/

namespace WhatsappBot

/-- A text whose first character is neither white space nor a slash. -/
def opens (text : String) : Bool := text.toList.head?.any fun c => !isTrimmed c && c ≠ '/'

variable {text other : String}

theorem opens_iff : opens text = true ↔
    ∃ c rest, text.toList = c :: rest ∧ isTrimmed c = false ∧ c ≠ '/' := by
  unfold opens
  cases text.toList with
  | nil => simp only [List.head?_nil, Option.any_none, Bool.false_eq_true, reduceCtorEq, false_and,
      exists_false]
  | cons c rest =>
    simp only [List.head?_cons, Option.any_some, Bool.and_eq_true, Bool.not_eq_true',
      decide_eq_true_eq, List.cons.injEq]
    constructor
    · rintro ⟨solid, apart⟩
      exact ⟨c, rest, ⟨rfl, rfl⟩, solid, apart⟩
    · rintro ⟨_, _, ⟨rfl, rfl⟩, solid, apart⟩
      exact ⟨solid, apart⟩

/-- **Such a text is no command**, and it stays none when it is trimmed. -/
theorem not_isCommand_of_opens (h : opens text = true) : isCommand (trim text) = false := by
  obtain ⟨c, rest, chars, solid, apart⟩ := opens_iff.mp h
  have kept : (trim text).toList.head? = some c := by
    rw [trim_toList, chars, List.dropWhile_cons_of_neg (by simpa using solid)]
    cases found : (c :: rest).rdropWhile isTrimmed with
    | nil =>
      rw [List.rdropWhile_eq_nil_iff] at found
      rw [found c List.mem_cons_self] at solid
      cases solid
    | cons first others =>
      have pre := List.rdropWhile_prefix isTrimmed (c :: rest)
      rw [found] at pre
      rw [(List.cons_prefix_cons.mp pre).1]
      rfl
  rw [isCommand, kept, decide_eq_false_iff_not, Option.some.injEq]
  exact apart

theorem opens_append (h : opens text = true) : opens (text ++ other) = true := by
  obtain ⟨c, rest, chars, solid, apart⟩ := opens_iff.mp h
  refine opens_iff.mpr ⟨c, rest ++ other.toList, ?_, solid, apart⟩
  rw [String.toList_append, chars, List.cons_append]

theorem opens_intercalate {separator : String} {texts : List String} (h : opens text = true) :
    opens (separator.intercalate (text :: texts)) = true := by
  obtain ⟨c, rest, chars, solid, apart⟩ := opens_iff.mp h
  have starts : ∃ more, (separator.intercalate (text :: texts)).toList = text.toList ++ more := by
    rw [String.toList_intercalate]
    cases texts with
    | nil => exact ⟨[], rfl⟩
    | cons next texts =>
      rw [List.map_cons, List.map_cons, List.intercalate_cons_cons, List.append_assoc]
      exact ⟨_, rfl⟩
  obtain ⟨more, starts⟩ := starts
  exact opens_iff.mpr ⟨c, rest ++ more, by rw [starts, chars, List.cons_append], solid, apart⟩

theorem opens_ite {p : Prop} [Decidable p] (h : opens text = true) (h' : opens other = true) :
    opens (if p then text else other) = true := by
  split
  · exact h
  · exact h'

/-- A number starts with a digit. -/
theorem opens_toString (n : Nat) : opens (toString n) = true := by
  have digits : (toString n).toList = Nat.toDigits 10 n := by
    rw [Nat.toString_eq_repr, Nat.toList_repr]
  cases found : Nat.toDigits 10 n with
  | nil => exact absurd found Nat.toDigits_ne_nil
  | cons c rest =>
    have digit : c.isDigit = true :=
      Nat.isDigit_of_mem_toDigits (by decide) (by decide) (found ▸ List.mem_cons_self)
    have bounds : 48 ≤ c.toNat ∧ c.toNat ≤ 57 := by
      simp only [Char.isDigit, Bool.and_eq_true, decide_eq_true_eq, UInt32.le_iff_toNat_le] at digit
      exact digit
    refine opens_iff.mpr ⟨c, rest, digits.trans found, ?_, ?_⟩
    · simp only [isTrimmed, List.mem_cons, List.not_mem_nil, or_false, Bool.or_eq_false_iff,
        decide_eq_false_iff_not, Bool.and_eq_false_iff]
      omega
    · rintro rfl
      revert digit
      decide

/-! ## The texts of the executor -/

section

open ControllerCommands BulkControllerCommands

/-- A UUID that starts with a hexadecimal digit, as those of `randomUUID` do. -/
def Uuid.Hexadecimal (uuid : Uuid) : Prop :=
  ∃ c rest, uuid.text.toList = c :: rest ∧ c ∈ "0123456789abcdef".toList

theorem Uuid.Hexadecimal.opens {uuid : Uuid} (h : uuid.Hexadecimal) : opens uuid.text = true := by
  obtain ⟨c, rest, chars, digit⟩ := h
  have apart : ("0123456789abcdef".toList.all fun c => !isTrimmed c && c ≠ '/') = true := by decide
  obtain ⟨solid, other⟩ := Bool.and_eq_true_iff.mp (List.all_eq_true.mp apart c digit)
  rw [Bool.not_eq_true'] at solid
  exact opens_iff.mpr ⟨c, rest, chars, solid, of_decide_eq_true other⟩

theorem mem_of_list {db : Database} {statuses : List JobStatus} {limit : Int} {job : QueueJob}
    (h : job ∈ JobRepository.list db statuses limit) : job ∈ db.jobs.rows := by
  have listed : job ∈ (db.jobs.rows.filter fun job =>
      statuses = [] || job.status ∈ statuses).reverse := by
    unfold JobRepository.list at h
    dsimp only at h
    split at h
    · exact h
    · exact List.mem_of_mem_take h
  exact List.mem_of_mem_filter (List.mem_reverse.mp listed)

theorem opens_queueLines {db : Database} (hexadecimal : db.Drawn Uuid.Hexadecimal)
    (failedOnly : Bool) : opens (queueLines db failedOnly) = true := by
  unfold queueLines
  cases listed : JobRepository.list db (if failedOnly then [.FAILED, .REVIEW_REQUIRED] else []) 20
    with
  | nil => decide
  | cons job jobs =>
    refine opens_intercalate ?_
    unfold queueLine
    simp only [String.append_assoc]
    exact opens_append (hexadecimal job (mem_of_list (listed ▸ List.mem_cons_self))).opens

theorem opens_groupLines (db : Database) : opens (groupLines db) = true := by
  unfold groupLines
  cases DestinationRepository.list db false with
  | nil => decide
  | cons group groups =>
    refine opens_intercalate ?_
    unfold groupLine
    simp only [String.append_assoc]
    exact opens_append (opens_ite (by decide) (by decide))

theorem opens_helpText : opens helpText = true := opens_intercalate (by decide)

theorem opens_failureText (head : String) : opens (failureText head) = true :=
  opens_ite (by decide) (by decide)

theorem opens_report (report : HealthReport) (grouped : List JobStatus) :
    opens (Json.pretty 0 (report.toJson grouped)) = true := by
  unfold HealthReport.toJson
  rw [Json.pretty]
  simp only [List.isEmpty_cons, Bool.false_eq_true, if_false, String.append_assoc]
  exact opens_append (by decide)

theorem opens_batch (db : Database) (grouped : List JobStatus) (id : String) :
    opens (BulkControllerCommands.batch db grouped id) = true := by
  unfold BulkControllerCommands.batch
  split
  · exact opens_append (by decide)
  · exact opens_intercalate (opens_append (by decide))

theorem opens_reply (result : BulkEnqueueResult) (report : BulkReport) :
    opens (BulkControllerCommands.reply result report) = true := by
  cases report <;> exact opens_intercalate (opens_append (by decide))

end

/-! ## The group set commands -/

namespace GroupSetCommands

variable {codec : JidCodec} {s : GroupSetStore} {name : GroupSetName} {now : Timestamp}
  {reply : String}

theorem opens_listText (s : GroupSetStore) : opens (listText s) = true := by
  unfold listText
  split
  · decide
  · exact opens_intercalate (by decide)

theorem opens_showSet (s : GroupSetStore) (name : GroupSetName) :
    opens (showSet s name) = true := by
  unfold showSet
  split
  · exact opens_append (by decide)
  · exact opens_intercalate (opens_append (by decide))

theorem opens_createSet (h : (createSet s name now).1 = .ok reply) : opens reply = true := by
  unfold createSet at h
  split at h <;> cases h <;> exact opens_append (by decide)

theorem opens_deleteSet (h : (deleteSet s name now).1 = .ok reply) : opens reply = true := by
  unfold deleteSet at h
  split at h <;> cases h <;> exact opens_append (by decide)

theorem opens_modify {action : MemberAction} {inputs : List String}
    (h : (modify codec s action name inputs now).1 = .ok reply) : opens reply = true := by
  unfold modify at h
  split at h
  · cases h
    cases action <;> decide
  · split at h
    · cases h
      exact opens_append (by decide)
    · split at h
      · cases h
      · split at h
        · cases h
          cases action <;> exact opens_intercalate (by decide)
        · split at h <;> cases h
          · exact opens_append (by decide)
          · exact opens_intercalate (opens_append (by decide))

theorem opens_executeNamed {parsed : ParsedGroupSet}
    (h : (executeNamed codec s parsed name now).1 = .ok reply) : opens reply = true := by
  unfold executeNamed at h
  split at h
  · split at h
    · cases h
      decide
    · exact opens_createSet h
  · split at h
    · split at h
      · cases h
        decide
      · exact opens_deleteSet h
    · split at h
      · split at h
        · cases h
          decide
        · cases h
          exact opens_showSet s name
      · split at h
        · exact opens_modify h
        · split at h
          · exact opens_modify h
          · cases h
            decide

theorem opens_execute {command : String} (h : (execute codec s command now).1 = .ok reply) :
    opens reply = true := by
  unfold execute at h
  dsimp only at h
  split at h
  · split at h
    · cases h
      decide
    · cases h
      exact opens_listText s
  · split at h
    · cases h
      decide
    · split at h
      · cases h
        decide
      · exact opens_executeNamed h

end GroupSetCommands

/-! ## The bulk commands -/

/-- A bulk command that ends before its first await ends with a text that opens. -/
inductive BulkStart.Plain : BulkStart → Prop where
  | usage {text : String} (plain : opens text = true) : Plain (.usage text)
  | reply {text : String} (plain : opens text = true) : Plain (.reply text)
  | enqueue (request : BulkEnqueueRequest) (report : BulkReport) : Plain (.enqueue request report)

namespace BulkControllerCommands

variable {codec : JidCodec} {db : Database} {s : GroupSetStore} {command : String}
  {start : BulkStart}

theorem map_plain {α : Type} {x : Except AppError α} {f : α → BulkStart}
    (plain : ∀ a, (f a).Plain) (h : x.map f = .ok start) : start.Plain := by
  cases x with
  | error e => cases h
  | ok a => exact Except.ok.inj h ▸ plain a

theorem invalidTargets_plain (issues : List TargetIssue) :
    (BulkStart.reply (invalidTargets issues)).Plain := .reply (opens_intercalate (by decide))

theorem startMulti_plain (h : startMulti codec db command = .ok start) : start.Plain := by
  unfold startMulti at h
  split at h
  · cases h
    exact .usage (by decide)
  · refine map_plain (fun resolved => ?_) h
    split
    · exact invalidTargets_plain _
    · exact .enqueue _ _

theorem startAll_plain (h : startAll codec db command = .ok start) : start.Plain := by
  unfold startAll at h
  split at h
  · cases h
    exact .usage (by decide)
  · refine map_plain (fun snapshot => ?_) h
    split
    · exact .reply (by decide)
    · exact .enqueue _ _

theorem startSet_plain (h : startSet codec s command = .ok start) : start.Plain := by
  unfold startSet at h
  split at h
  · cases h
    exact .usage (by decide)
  · split at h
    · cases h
      exact .usage (by decide)
    · split at h
      · cases h
        exact .reply (opens_append (by decide))
      · refine map_plain (fun resolved => ?_) h
        dsimp only
        split
        · exact .reply (opens_append (opens_append (by decide)))
        · exact .enqueue _ _

theorem forwardMulti_plain {expression sourceKey : String}
    (h : forwardMulti codec db expression sourceKey = .ok start) : start.Plain := by
  unfold forwardMulti at h
  dsimp only at h
  split at h
  · cases h
    exact .usage (by decide)
  · refine map_plain (fun resolved => ?_) h
    split
    · exact invalidTargets_plain _
    · exact .enqueue _ _

theorem forwardAll_plain {sourceKey : String} (h : forwardAll codec db sourceKey = .ok start) :
    start.Plain := by
  refine map_plain (fun snapshot => ?_) h
  split
  · exact .reply (by decide)
  · exact .enqueue _ _

theorem forwardSet_plain {rawName sourceKey : String}
    (h : forwardSet codec s rawName sourceKey = .ok start) : start.Plain := by
  unfold forwardSet at h
  split at h
  · cases h
    exact .usage (by decide)
  · split at h
    · cases h
      exact .reply (opens_append (by decide))
    · refine map_plain (fun resolved => ?_) h
      dsimp only
      split
      · exact .reply (by decide)
      · exact .enqueue _ _

end BulkControllerCommands

/-! ## A turn of the executor -/

/-- A call that has returned has returned a text that opens. -/
inductive ExecutorPhase.Plain : ExecutorPhase → Prop where
  | dispatching : Plain .dispatching
  | enqueueing (kind : AwaitedCall) (call : Enqueue) : Plain (.enqueueing kind call)
  | bulking (report : BulkReport) (bulk : Bulk) : Plain (.bulking report bulk)
  | fetching : Plain .fetching
  | returned {reply : String} (plain : opens reply = true) : Plain (.returned reply)
  | thrown (error : AppError) : Plain (.thrown error)

namespace ExecutorCall

variable {Creds Value : Type} {platform : ExecutorPlatform Creds Value} {c c' : ExecutorCall}
  {i : ExecutorInput} {s s' : GroupSetStore} {reply : String}

theorem caught_plain (c : ExecutorCall) : c.caught.Plain := .returned (opens_failureText _)

theorem settle_plain {outcome : Except AppError String}
    (plain : ∀ reply, outcome = .ok reply → opens reply = true) : (c.settle outcome).Plain := by
  cases outcome with
  | ok reply => exact .returned (plain reply rfl)
  | error error => exact c.caught_plain

theorem reads_plain (plain : opens reply = true) : (c.reads i reply).Plain := by
  unfold reads
  split
  · exact c.caught_plain
  · exact .returned plain

theorem transacts_plain {outcome : Except AppError String × GroupSetStore}
    (plain : ∀ reply, outcome.1 = .ok reply → opens reply = true) :
    (c.transacts i s outcome).1.Plain := by
  unfold transacts
  split
  · exact c.caught_plain
  · exact settle_plain plain

theorem writes_plain {outcome : Except AppError String × GroupSetStore}
    (plain : ∀ reply, outcome.1 = .ok reply → opens reply = true) :
    (c.writes i s outcome).1.Plain := by
  unfold writes
  split
  · exact c.caught_plain
  · exact transacts_plain plain

theorem onDatabase_plain {α : Type} {text : α → String} {outcome : Except AppError α × Database}
    (plain : ∀ a, opens (text a) = true) (reply : String)
    (h : (onDatabase s text outcome).1 = .ok reply) : opens reply = true := by
  unfold onDatabase at h
  rcases outcome with ⟨_ | a, after⟩
  · cases h
  · cases h
    exact plain a

theorem starts_plain {start : Except AppError BulkStart}
    (plain : ∀ bulk, start = .ok bulk → bulk.Plain) : (starts platform i start).Plain := by
  unfold starts
  split
  · cases plain _ rfl with
    | usage plain => exact .returned plain
  · split
    · exact .thrown _
    · cases plain _ rfl with
      | reply plain => exact .returned plain
  · exact .thrown _
  · split
    · exact .thrown _
    · exact .bulking _ _

open ControllerCommands BulkControllerCommands in
theorem dispatch_plain (platform : ExecutorPlatform Creds Value) (c : ExecutorCall)
    (i : ExecutorInput) (hexadecimal : s.db.Drawn Uuid.Hexadecimal) :
    (c.dispatch platform i s).1.Plain := by
  unfold dispatch
  cases branch c.command c.sourceKey with
  | unsourced | forwardUsage =>
    dsimp only
    exact .returned (by decide)
  | help =>
    dsimp only
    exact .returned opens_helpText
  | unknown =>
    dsimp only
    exact .returned (opens_append (by decide))
  | forward | send =>
    dsimp only
    exact .enqueueing _ _
  | schedule =>
    dsimp only
    split
    · exact c.caught_plain
    · exact .enqueueing _ _
  | refresh =>
    dsimp only
    split
    · exact .fetching
    · exact c.caught_plain
  | forwardMulti =>
    dsimp only
    exact starts_plain fun _ => forwardMulti_plain
  | forwardSet =>
    dsimp only
    exact starts_plain fun _ => forwardSet_plain
  | forwardAll =>
    dsimp only
    exact starts_plain fun _ => forwardAll_plain
  | sendMulti =>
    dsimp only
    exact starts_plain fun _ => startMulti_plain
  | sendAll =>
    dsimp only
    exact starts_plain fun _ => startAll_plain
  | sendSet =>
    dsimp only
    exact starts_plain fun _ => startSet_plain
  | status =>
    dsimp only
    exact reads_plain (opens_report _ _)
  | queue failedOnly =>
    dsimp only
    exact reads_plain (opens_queueLines hexadecimal failedOnly)
  | groups =>
    dsimp only
    exact reads_plain (opens_groupLines s.db)
  | batch id =>
    dsimp only
    exact reads_plain (opens_batch s.db platform.grouped id)
  | aliasGroup =>
    dsimp only
    refine writes_plain (onDatabase_plain fun destination => ?_)
    unfold aliasReply
    simp only [String.append_assoc]
    exact opens_append (by decide)
  | allow =>
    dsimp only
    refine writes_plain (onDatabase_plain fun destination => ?_)
    unfold allowReply
    simp only [String.append_assoc]
    exact opens_append (by decide)
  | deny =>
    dsimp only
    refine writes_plain (onDatabase_plain fun destination => ?_)
    unfold denyReply
    simp only [String.append_assoc]
    exact opens_append (by decide)
  | cancel =>
    dsimp only
    refine transacts_plain (onDatabase_plain fun job => ?_)
    simp only [String.append_assoc]
    exact opens_append (by decide)
  | groupset =>
    have plain : ∀ reply, (GroupSetCommands.execute platform.jids.toJidCodec s (trim c.command)
        i.now).1 = .ok reply → opens reply = true := fun _ => GroupSetCommands.opens_execute
    dsimp only
    generalize GroupSetCommands.execute platform.jids.toJidCodec s (trim c.command) i.now = outcome
      at plain ⊢
    split
    · exact transacts_plain plain
    · exact settle_plain plain

theorem opens_forwardReply (result : QueueMessageResult) :
    opens (ControllerCommands.forwardReply result) = true := by
  unfold ControllerCommands.forwardReply
  simp only [String.append_assoc]
  exact opens_append (by decide)

theorem opens_sendReply {title : String} (titled : opens (title ++ ": ") = true)
    (result : QueueMessageResult) : opens (ControllerCommands.sendReply title result) = true := by
  unfold ControllerCommands.sendReply
  exact opens_append (opens_ite (by decide) titled)

theorem opens_awaited (kind : AwaitedCall) (result : QueueMessageResult) :
    opens (AwaitedCall.reply kind result) = true := by
  cases kind with
  | forward => exact opens_forwardReply result
  | send => exact opens_sendReply (by decide) result
  | schedule => exact opens_sendReply (by decide) result

/-- **A turn of the executor** returns no text that would be a command. -/
theorem step_plain (platform : ExecutorPlatform Creds Value) (i : ExecutorInput)
    (hexadecimal : s.db.Drawn Uuid.Hexadecimal) (plain : c.phase.Plain) :
    (c.step platform i s).1.phase.Plain := by
  unfold step
  cases phase : c.phase with
  | dispatching =>
    have plain := dispatch_plain platform c i hexadecimal
    dsimp only [goto]
    generalize c.dispatch platform i s = after at plain ⊢
    exact plain
  | enqueueing kind call =>
    dsimp only [goto]
    unfold enqueued
    split
    · exact .returned (opens_awaited _ _)
    · exact c.caught_plain
    · exact .enqueueing _ _
  | bulking report bulk =>
    dsimp only [goto]
    unfold bulked
    split
    · exact .returned (opens_reply _ _)
    · exact .thrown _
    · exact .bulking _ _
  | fetching =>
    dsimp only
    split
    · exact c.caught_plain
    · split
      · exact c.caught_plain
      · refine .returned ?_
        unfold ControllerCommands.refreshReply
        simp only [String.append_assoc]
        exact opens_append (opens_toString _)
  | returned | thrown =>
    dsimp only
    rw [phase]
    exact phase ▸ plain

end ExecutorCall

end WhatsappBot
